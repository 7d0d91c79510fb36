import TrafficReplay.Proofs.Cursor
import TrafficReplay.Proofs.Latest

namespace TrafficReplay

inductive CursorDeed where
  | bind (recorded live : Int64)
  | resolve (recorded : Int64)
  | release (recorded : Int64)
  | releaseLane
deriving DecidableEq

structure CursorCall where
  holder : Nat
  lane : LaneId
  deed : CursorDeed
deriving DecidableEq

namespace CursorTables

def perform (tables : CursorTables) (call : CursorCall) : CursorTables :=
  match call.deed with
  | .bind recorded live => tables.bind call.holder call.lane recorded live
  | .resolve _ => tables
  | .release recorded => tables.release call.holder recorded
  | .releaseLane => tables.releaseLane call.holder call.lane

end CursorTables

/-- Holders come at any time, and each of those present may make the next call. -/
inductive CursorTrace (scope : CursorScope) : List CursorCall → CursorTables → Prop
  | start : CursorTrace scope [] (.ofScope scope 0)
  | comes {calls : List CursorCall} {tables : CursorTables} (trace : CursorTrace scope calls tables) :
      CursorTrace scope calls (tables.welcome scope)
  | performs {calls : List CursorCall} {tables : CursorTables}
      (trace : CursorTrace scope calls tables) (call : CursorCall)
      (present : call.holder < tables.homes.length) :
      CursorTrace scope (calls ++ [call]) (tables.perform call)

namespace CursorCall

def SeenBy (scope : CursorScope) (holder : Nat) (call : CursorCall) : Prop :=
  scope = .global ∨ call.holder = holder

def Binds (recorded : Int64) (call : CursorCall) : Prop := ∃ live, call.deed = .bind recorded live

def Names (recorded : Int64) (call : CursorCall) : Prop :=
  call.Binds recorded ∨ call.deed = .release recorded

end CursorCall

section history

variable (scope : CursorScope) (holder : Nat) (recorded : Int64)

/-- The lane that made the latest binding of an id, whether or not it was released since then. -/
def LatestBinder (calls : List CursorCall) (lane : LaneId) : Prop :=
  ∃ call, Latest (fun _ call => call.SeenBy scope holder ∧ call.Binds recorded) calls call ∧
    call.lane = lane

/-- A call has a bearing on what an id resolves to. Releasing a lane empties a table of its own; of a
    shared one it takes the ids whose latest binding the lane has made. -/
def Affects (before : List CursorCall) (call : CursorCall) : Prop :=
  call.SeenBy scope holder ∧
    (call.Names recorded ∨ call.deed = .releaseLane ∧
      (scope = .lane ∨ LatestBinder scope holder recorded before call.lane))

/-- The last call that has a bearing on an id binds it to a live cursor. -/
def BoundTo (calls : List CursorCall) (live : Int64) : Prop :=
  ∃ call, Latest (Affects scope holder recorded) calls call ∧ call.deed = .bind recorded live

end history

section history

variable {scope : CursorScope} {holder : Nat} {recorded : Int64} {calls : List CursorCall}
  {call : CursorCall} {lane : LaneId}

theorem Affects.of_names (seen : call.SeenBy scope holder) (names : call.Names recorded) :
    Affects scope holder recorded calls call := ⟨seen, .inl names⟩

theorem not_affects_of_unseen (unseen : ¬call.SeenBy scope holder) :
    ¬Affects scope holder recorded calls call := fun affects => unseen affects.1

theorem not_affects_of_resolve {id : Int64} (resolves : call.deed = .resolve id) :
    ¬Affects scope holder recorded calls call := by
  rintro ⟨_, (⟨live, binds⟩ | releases) | ⟨leaves, _⟩⟩
  · cases resolves.symm.trans binds
  · cases resolves.symm.trans releases
  · cases resolves.symm.trans leaves

theorem not_affects_of_bind {id live : Int64} (binds : call.deed = .bind id live)
    (different : id ≠ recorded) : ¬Affects scope holder recorded calls call := by
  rintro ⟨_, (⟨other, named⟩ | releases) | ⟨leaves, _⟩⟩
  · cases binds.symm.trans named
    exact different rfl
  · cases binds.symm.trans releases
  · cases binds.symm.trans leaves

theorem not_affects_of_release {id : Int64} (releases : call.deed = .release id)
    (different : id ≠ recorded) : ¬Affects scope holder recorded calls call := by
  rintro ⟨_, (⟨other, named⟩ | named) | ⟨leaves, _⟩⟩
  · cases releases.symm.trans named
  · cases releases.symm.trans named
    exact different rfl
  · cases releases.symm.trans leaves

theorem affects_of_releaseLane (leaves : call.deed = .releaseLane) :
    Affects scope holder recorded calls call ↔ call.SeenBy scope holder ∧
      (scope = .lane ∨ LatestBinder scope holder recorded calls call.lane) := by
  constructor
  · rintro ⟨seen, (⟨live, binds⟩ | releases) | ⟨_, affected⟩⟩
    · cases leaves.symm.trans binds
    · cases leaves.symm.trans releases
    · exact ⟨seen, affected⟩
  · rintro ⟨seen, affected⟩
    exact ⟨seen, .inr ⟨leaves, affected⟩⟩

/-- A binding that is in force is the latest one. -/
theorem LatestBinder.of_latest (latest : Latest (Affects scope holder recorded) calls call)
    (binds : call.Binds recorded) : LatestBinder scope holder recorded calls call.lane := by
  obtain ⟨before, after, split, affects, kept⟩ := latest
  refine ⟨call, ⟨before, after, split, ⟨affects.1, binds⟩, ?_⟩, rfl⟩
  rintro between later rest after_split ⟨seen, again⟩
  exact kept between later rest after_split (.of_names seen (.inl again))

theorem Latest.unique {α : Type} {counts : List α → α → Prop} {items : List α} {first second : α}
    (latest : Latest counts items first) (other : Latest counts items second) : first = second := by
  induction items using List.reverseRecOn with
  | nil => exact absurd latest not_latest_nil
  | append_singleton items last ih =>
    rcases latest_concat.mp latest with ⟨counted, rfl⟩ | ⟨uncounted, latest⟩ <;>
      rcases latest_concat.mp other with ⟨again, rfl⟩ | ⟨not_again, other⟩
    · rfl
    · exact absurd counted not_again
    · exact absurd again uncounted
    · exact ih latest other

theorem LatestBinder.unique {first second : LaneId}
    (latest : LatestBinder scope holder recorded calls first)
    (other : LatestBinder scope holder recorded calls second) : first = second := by
  obtain ⟨call, latest, rfl⟩ := latest
  obtain ⟨_, other, rfl⟩ := other
  rw [latest.unique other]

end history

namespace CursorTable

variable {table : CursorTable}

def after (scope : CursorScope) (table : CursorTable) (call : CursorCall) : CursorTable :=
  match call.deed, scope with
  | .bind recorded live, _ => table.bind call.lane recorded live
  | .resolve _, _ => table
  | .release recorded, _ => table.release recorded
  | .releaseLane, .lane => .empty
  | .releaseLane, .global => table.releaseOwner call.lane

/-- The bindings of a table are those that the history has left in force. -/
structure Follows (scope : CursorScope) (holder : Nat) (calls : List CursorCall)
    (table : CursorTable) : Prop where
  functional : table.IsFunctional
  bound : ∀ (recorded : Int64) (binding : CursorBinding),
    table.bindings.lookup recorded = some binding ↔
      ∃ call, Latest (Affects scope holder recorded) calls call ∧
        call.deed = .bind recorded binding.live ∧ call.lane = binding.owner

variable {scope : CursorScope} {holder : Nat} {calls : List CursorCall} {call : CursorCall}

theorem Follows.fresh (unseen : ∀ call ∈ calls, ¬call.SeenBy scope holder) :
    empty.Follows scope holder calls where
  functional := List.nodup_nil
  bound recorded binding := by
    constructor
    · intro found
      cases found
    · rintro ⟨call, latest, _⟩
      have member := latest.mem
      obtain ⟨_, _, _, affects, _⟩ := latest
      exact absurd affects.1 (unseen call member)

theorem Follows.spared (follows : table.Follows scope holder calls) {recorded : Int64}
    (unaffected : ¬Affects scope holder recorded calls call) (binding : CursorBinding) :
    table.bindings.lookup recorded = some binding ↔
      ∃ other, Latest (Affects scope holder recorded) (calls ++ [call]) other ∧
        other.deed = .bind recorded binding.live ∧ other.lane = binding.owner := by
  rw [follows.bound]
  constructor
  · rintro ⟨other, latest, found⟩
    exact ⟨other, latest_concat.mpr (.inr ⟨unaffected, latest⟩), found⟩
  · rintro ⟨other, latest, found⟩
    rcases latest_concat.mp latest with ⟨affects, _⟩ | ⟨_, latest⟩
    · exact absurd affects unaffected
    · exact ⟨other, latest, found⟩

theorem Follows.unseen (follows : table.Follows scope holder calls)
    (unseen : ¬call.SeenBy scope holder) : table.Follows scope holder (calls ++ [call]) where
  functional := follows.functional
  bound _ binding := follows.spared (not_affects_of_unseen unseen) binding

theorem unbound_of_affects {recorded : Int64} (affects : Affects scope holder recorded calls call)
    (other_deed : ¬call.Binds recorded) (binding : CursorBinding) :
    none = some binding ↔
      ∃ other, Latest (Affects scope holder recorded) (calls ++ [call]) other ∧
        other.deed = .bind recorded binding.live ∧ other.lane = binding.owner := by
  constructor
  · intro found
    cases found
  · rintro ⟨other, latest, binds, _⟩
    rcases latest_concat.mp latest with ⟨_, rfl⟩ | ⟨unaffected, _⟩
    · exact absurd ⟨_, binds⟩ other_deed
    · exact absurd affects unaffected

theorem Follows.bind (follows : table.Follows scope holder calls)
    (seen : call.SeenBy scope holder) {recorded live : Int64}
    (binds : call.deed = .bind recorded live) :
    (table.bind call.lane recorded live).Follows scope holder (calls ++ [call]) where
  functional := follows.functional.bind call.lane recorded live
  bound other binding := by
    rw [lookup_bind]
    by_cases same : other = recorded
    · subst same
      rw [if_pos rfl]
      have affects : Affects scope holder other calls call := .of_names seen (.inl ⟨live, binds⟩)
      constructor
      · intro found
        cases found
        exact ⟨call, latest_concat.mpr (.inl ⟨affects, rfl⟩), binds, rfl⟩
      · rintro ⟨found, latest, named, owner⟩
        rcases latest_concat.mp latest with ⟨_, rfl⟩ | ⟨unaffected, _⟩
        · cases binds.symm.trans named
          rw [owner]
        · exact absurd affects unaffected
    · rw [if_neg same]
      exact follows.spared (not_affects_of_bind binds (Ne.symm same)) binding

theorem Follows.release (follows : table.Follows scope holder calls)
    (seen : call.SeenBy scope holder) {recorded : Int64}
    (releases : call.deed = .release recorded) :
    (table.release recorded).Follows scope holder (calls ++ [call]) where
  functional := follows.functional.filter _
  bound other binding := by
    rw [lookup_release]
    by_cases same : other = recorded
    · subst same
      rw [if_pos rfl]
      apply unbound_of_affects (.of_names seen (.inr releases))
      rintro ⟨live, binds⟩
      cases releases.symm.trans binds
    · rw [if_neg same]
      exact follows.spared (not_affects_of_release releases (Ne.symm same)) binding

theorem not_binds_of_releaseLane {recorded : Int64} (leaves : call.deed = .releaseLane) :
    ¬call.Binds recorded := by
  rintro ⟨live, binds⟩
  cases leaves.symm.trans binds

theorem Follows.clear (seen : call.SeenBy .lane holder) (leaves : call.deed = .releaseLane) :
    empty.Follows .lane holder (calls ++ [call]) where
  functional := List.nodup_nil
  bound _ binding :=
    unbound_of_affects ((affects_of_releaseLane leaves).mpr ⟨seen, .inl rfl⟩)
      (not_binds_of_releaseLane leaves) binding

theorem Follows.releaseOwner (follows : table.Follows .global holder calls)
    (leaves : call.deed = .releaseLane) :
    (table.releaseOwner call.lane).Follows .global holder (calls ++ [call]) where
  functional := follows.functional.filter _
  bound recorded binding := by
    rw [follows.functional.lookup_releaseOwner]
    by_cases made : LatestBinder .global holder recorded calls call.lane
    · have ended := unbound_of_affects
        ((affects_of_releaseLane leaves).mpr ⟨.inl rfl, .inr made⟩)
        (not_binds_of_releaseLane leaves) binding
      rw [← ended]
      cases found : table.bindings.lookup recorded with
      | none => rfl
      | some held =>
        -- What is still bound was bound by the lane that made the latest binding.
        obtain ⟨other, latest, binds, owner⟩ := (follows.bound recorded held).mp found
        have same : held.owner = call.lane :=
          owner.symm.trans ((LatestBinder.of_latest latest ⟨_, binds⟩).unique made)
        rw [Option.filter_some, if_neg (by simp [same])]
    · have unaffected : ¬Affects .global holder recorded calls call := by
        rw [affects_of_releaseLane leaves]
        rintro ⟨_, own | again⟩
        · cases own
        · exact made again
      rw [← follows.spared unaffected]
      cases found : table.bindings.lookup recorded with
      | none => rfl
      | some held =>
        obtain ⟨other, latest, binds, owner⟩ := (follows.bound recorded held).mp found
        have different : held.owner ≠ call.lane := by
          intro same
          apply made
          rw [← same, ← owner]
          exact .of_latest latest ⟨_, binds⟩
        rw [Option.filter_some, if_pos (by simp [different])]

theorem Follows.seen (follows : table.Follows scope holder calls)
    (seen : call.SeenBy scope holder) :
    (table.after scope call).Follows scope holder (calls ++ [call]) := by
  unfold after
  split
  · rename_i binds
    exact follows.bind seen binds
  · rename_i resolves
    exact ⟨follows.functional, fun _ => follows.spared (not_affects_of_resolve resolves)⟩
  · rename_i releases
    exact follows.release seen releases
  · rename_i leaves
    exact .clear seen leaves
  · rename_i leaves
    exact follows.releaseOwner leaves

theorem Follows.resolve (follows : table.Follows scope holder calls) (recorded live : Int64) :
    table.resolve recorded = .bound live ↔ BoundTo scope holder recorded calls live := by
  rw [resolve_eq_bound_iff]
  constructor
  · rintro ⟨lane, found⟩
    obtain ⟨call, latest, binds, _⟩ := (follows.bound recorded ⟨live, lane⟩).mp found
    exact ⟨call, latest, binds⟩
  · rintro ⟨call, latest, binds⟩
    exact ⟨call.lane, (follows.bound recorded ⟨live, call.lane⟩).mpr ⟨call, latest, binds, rfl⟩⟩
end CursorTable

namespace CursorTables

def table? (tables : CursorTables) (holder : Nat) : Option CursorTable :=
  tables.homes[holder]?.map fun home => home.table tables.common

variable {tables : CursorTables} {call : CursorCall} {holder : Nat}

theorem resolve?_eq (tables : CursorTables) (holder : Nat) (recorded : Int64) :
    tables.resolve? holder recorded =
      (tables.table? holder).map fun table => table.resolve recorded := by
  unfold resolve? table?
  rw [Option.map_map]
  rfl

theorem sizes_getElem? (tables : CursorTables) (holder : Nat) :
    tables.sizes[holder]? = (tables.table? holder).map CursorTable.size := by
  unfold sizes table?
  rw [List.getElem?_map, Option.map_map]
  rfl

theorem isEmpty?_eq (tables : CursorTables) (holder : Nat) :
    tables.isEmpty? holder = (tables.table? holder).map CursorTable.isEmpty := by
  unfold isEmpty? table?
  rw [Option.map_map]
  rfl

theorem perform_eq_own {table : CursorTable}
    (at_home : tables.homes[call.holder]? = some (.own table)) :
    tables.perform call =
      { tables with homes := tables.homes.set call.holder (.own (table.after .lane call)) } := by
  unfold perform CursorTable.after
  cases call.deed with
  | bind | release | releaseLane =>
    simp only [bind, release, releaseLane, change, at_home]
    rfl
  | resolve =>
    obtain ⟨below, found⟩ := List.getElem?_eq_some_iff.mp at_home
    dsimp only
    rw [← found, List.set_getElem_self]

theorem perform_eq_shared (at_home : tables.homes[call.holder]? = some .shared) :
    tables.perform call = { tables with common := tables.common.after .global call } := by
  have unmoved : tables.homes.set call.holder .shared = tables.homes := by
    obtain ⟨below, found⟩ := List.getElem?_eq_some_iff.mp at_home
    rw [← found, List.set_getElem_self]
  unfold perform CursorTable.after
  cases call.deed with
  | bind | release | releaseLane =>
    simp only [bind, release, releaseLane, change, at_home]
    show CursorTables.mk (tables.homes.set call.holder .shared) _ = _
    rw [unmoved]
    rfl
  | resolve => rfl

end CursorTables

namespace CursorTrace

variable {scope : CursorScope} {calls : List CursorCall} {tables : CursorTables} {holder : Nat}

theorem length_perform (tables : CursorTables) (call : CursorCall) :
    (tables.perform call).homes.length = tables.homes.length := by
  have changed : ∀ step, (tables.change call.holder step).homes.length = tables.homes.length := by
    intro step
    unfold CursorTables.change
    split
    · rfl
    · exact List.length_set
  unfold CursorTables.perform
  split
  · exact changed _
  · rfl
  · exact changed _
  · exact changed _

theorem present (trace : CursorTrace scope calls tables) :
    ∀ call ∈ calls, call.holder < tables.homes.length := by
  induction trace with
  | start => exact List.forall_mem_nil _
  | @comes calls tables trace ih =>
    intro call member
    have longer : (tables.welcome scope).homes.length = tables.homes.length + 1 :=
      List.length_append
    have before := ih call member
    omega
  | @performs calls tables trace call present ih =>
    intro other member
    rw [length_perform]
    rcases List.mem_append.mp member with old | new
    · exact ih other old
    · rw [List.mem_singleton.mp new]
      exact present

theorem own (trace : CursorTrace .lane calls tables) :
    ∀ holder < tables.homes.length, ∃ table : CursorTable,
      tables.homes[holder]? = some (.own table) ∧ table.Follows .lane holder calls := by
  induction trace with
  | start =>
    intro holder below
    exact absurd below (Nat.not_lt_zero holder)
  | @comes calls tables trace ih =>
    intro holder below
    have longer : (tables.welcome .lane).homes.length = tables.homes.length + 1 :=
      List.length_append
    by_cases old : holder < tables.homes.length
    · obtain ⟨table, at_holder, follows⟩ := ih holder old
      refine ⟨table, ?_, follows⟩
      rw [← at_holder]
      exact List.getElem?_append_left old
    · have new : holder = tables.homes.length := by omega
      subst new
      refine ⟨.empty, List.getElem?_concat_length, .fresh ?_⟩
      rintro call member (global | own)
      · cases global
      · have before := trace.present call member
        omega
  | @performs calls tables trace call present ih =>
    intro holder below
    rw [length_perform] at below
    obtain ⟨caller, at_caller, caller_follows⟩ := ih call.holder present
    rw [CursorTables.perform_eq_own at_caller]
    -- A call writes to the table of its own holder and is unseen by every other one.
    by_cases same : holder = call.holder
    · subst same
      exact ⟨_, List.getElem?_set_self present, caller_follows.seen (.inr rfl)⟩
    · obtain ⟨table, at_holder, follows⟩ := ih holder below
      refine ⟨table, ?_, follows.unseen ?_⟩
      · rw [← at_holder]
        exact List.getElem?_set_ne (Ne.symm same)
      · rintro (global | own)
        · cases global
        · exact same own.symm

theorem shared (trace : CursorTrace .global calls tables) :
    (∀ home ∈ tables.homes, home = .shared) ∧
      ∀ holder, tables.common.Follows .global holder calls := by
  induction trace with
  | start => exact ⟨List.forall_mem_nil _, fun holder => .fresh (List.forall_mem_nil _)⟩
  | @comes calls tables trace ih =>
    refine ⟨?_, ih.2⟩
    intro home member
    rcases List.mem_append.mp member with old | new
    · exact ih.1 home old
    · exact List.mem_singleton.mp new
  | @performs calls tables trace call present ih =>
    obtain ⟨homes, follows⟩ := ih
    have at_caller : tables.homes[call.holder]? = some .shared := by
      rw [List.getElem?_eq_getElem present, homes _ (List.getElem_mem present)]
    rw [CursorTables.perform_eq_shared at_caller]
    exact ⟨homes, fun holder => (follows holder).seen (.inl rfl)⟩

/-- The table of each holder follows the calls that the holder sees. -/
theorem follows (trace : CursorTrace scope calls tables) (present : holder < tables.homes.length) :
    ∃ table, tables.table? holder = some table ∧ table.Follows scope holder calls := by
  cases scope with
  | lane =>
    obtain ⟨table, at_holder, follows⟩ := trace.own holder present
    refine ⟨table, ?_, follows⟩
    unfold CursorTables.table?
    rw [at_holder]
    rfl
  | global =>
    obtain ⟨homes, follows⟩ := trace.shared
    refine ⟨tables.common, ?_, follows holder⟩
    unfold CursorTables.table?
    rw [List.getElem?_eq_getElem present, homes _ (List.getElem_mem present)]
    rfl

end CursorTrace

end TrafficReplay
