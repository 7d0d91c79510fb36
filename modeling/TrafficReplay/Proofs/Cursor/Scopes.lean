import TrafficReplay.Proofs.Cursor.History

namespace TrafficReplay

section alone

variable {holder : Nat} {lane : LaneId} {recorded live : Int64} {calls : List CursorCall}

theorem boundTo_concat {scope : CursorScope} {call : CursorCall} :
    BoundTo scope holder recorded (calls ++ [call]) live ↔
      Affects scope holder recorded calls call ∧ call.deed = .bind recorded live ∨
        ¬Affects scope holder recorded calls call ∧ BoundTo scope holder recorded calls live := by
  unfold BoundTo
  constructor
  · rintro ⟨other, latest, binds⟩
    rcases latest_concat.mp latest with ⟨affects, rfl⟩ | ⟨unaffected, latest⟩
    · exact .inl ⟨affects, binds⟩
    · exact .inr ⟨unaffected, other, latest, binds⟩
  · rintro (⟨affects, binds⟩ | ⟨unaffected, other, latest, binds⟩)
    · exact ⟨call, latest_concat.mpr (.inl ⟨affects, rfl⟩), binds⟩
    · exact ⟨other, latest_concat.mpr (.inr ⟨unaffected, latest⟩), binds⟩

/-- A lane has one holder, which no other lane has, and nobody else names the id. -/
structure Alone (lane : LaneId) (holder : Nat) (recorded : Int64) (calls : List CursorCall) :
    Prop where
  same : ∀ call ∈ calls, call.lane = lane ↔ call.holder = holder
  unnamed : ∀ call ∈ calls, call.holder ≠ holder → ¬call.Names recorded

theorem Alone.front {call : CursorCall} (alone : Alone lane holder recorded (calls ++ [call])) :
    Alone lane holder recorded calls where
  same other member := alone.same other (List.mem_append_left _ member)
  unnamed other member := alone.unnamed other (List.mem_append_left _ member)

theorem Alone.lane_of_names (alone : Alone lane holder recorded calls) {call : CursorCall}
    (member : call ∈ calls) (names : call.Names recorded) : call.lane = lane := by
  apply (alone.same call member).mpr
  apply Classical.byContradiction
  intro other
  exact alone.unnamed call member other names

theorem Alone.latestBinder (alone : Alone lane holder recorded calls) {scope : CursorScope}
    {binder : LaneId} (latest : LatestBinder scope holder recorded calls binder) :
    binder = lane := by
  obtain ⟨call, latest, rfl⟩ := latest
  have member := latest.mem
  obtain ⟨_, _, _, ⟨_, binds⟩, _⟩ := latest
  exact alone.lane_of_names member (.inl binds)

theorem Alone.boundTo_iff (alone : Alone lane holder recorded calls) :
    BoundTo .lane holder recorded calls live ↔ BoundTo .global holder recorded calls live := by
  induction calls using List.reverseRecOn with
  | nil =>
    constructor <;> rintro ⟨_, latest, _⟩ <;> exact absurd latest not_latest_nil
  | append_singleton calls call ih =>
    have before := ih alone.front
    have last : call ∈ calls ++ [call] := by simp
    rw [boundTo_concat, boundTo_concat, before]
    by_cases own : call.holder = holder
    · by_cases leaves : call.deed = .releaseLane
      · -- A table of the lane's own is emptied; of the shared one, what the lane has bound goes.
        have unbinds : call.deed ≠ .bind recorded live := by
          intro binds
          cases leaves.symm.trans binds
        have of_lane : call.lane = lane := (alone.same call last).mpr own
        rw [affects_of_releaseLane leaves, affects_of_releaseLane leaves, of_lane]
        constructor
        · rintro (⟨_, binds⟩ | ⟨unaffected, _⟩)
          · exact absurd binds unbinds
          · exact absurd ⟨.inr own, .inl rfl⟩ unaffected
        · rintro (⟨_, binds⟩ | ⟨unaffected, other, latest, binds⟩)
          · exact absurd binds unbinds
          · have made := LatestBinder.of_latest latest ⟨_, binds⟩
            rw [alone.front.latestBinder made] at made
            exact absurd ⟨.inl rfl, .inr made⟩ unaffected
      · have same : Affects .lane holder recorded calls call ↔
            Affects .global holder recorded calls call := by
          unfold Affects
          simp [CursorCall.SeenBy, own, leaves]
        rw [same]
    · have unnamed := alone.unnamed call last own
      have unseen : ¬Affects .lane holder recorded calls call := by
        rintro ⟨global | same, _⟩
        · cases global
        · exact own same
      have spared : ¬Affects .global holder recorded calls call := by
        rintro ⟨_, names | ⟨_, own_table | made⟩⟩
        · exact unnamed names
        · cases own_table
        · exact own ((alone.same call last).mp (alone.front.latestBinder made))
      simp only [unseen, spared, false_and, not_false_eq_true, true_and, false_or]

end alone

namespace CursorTrace

variable {scope other : CursorScope} {calls : List CursorCall} {tables others : CursorTables}
  {holder : Nat} {lane : LaneId} {recorded : Int64}

theorem resolve_of_alone (trace : CursorTrace scope calls tables)
    (present : holder < tables.homes.length) (same : CursorTrace other calls others)
    (also : holder < others.homes.length) (alone : Alone lane holder recorded calls) :
    tables.resolve? holder recorded = others.resolve? holder recorded := by
  obtain ⟨table, at_holder, follows⟩ := trace.follows present
  obtain ⟨twin, at_twin, twin_follows⟩ := same.follows also
  have agree : ∀ live, BoundTo scope holder recorded calls live ↔
      BoundTo other holder recorded calls live := by
    intro live
    have lane_global : BoundTo .lane holder recorded calls live ↔
        BoundTo .global holder recorded calls live := alone.boundTo_iff
    cases scope <;> cases other
    · exact Iff.rfl
    · exact lane_global
    · exact lane_global.symm
    · exact Iff.rfl
  have bound : ∀ live, table.resolve recorded = .bound live ↔ twin.resolve recorded = .bound live :=
    fun live => by rw [follows.resolve, twin_follows.resolve, agree]
  rw [CursorTables.resolve?_eq, CursorTables.resolve?_eq, at_holder, at_twin]
  show some (table.resolve recorded) = some (twin.resolve recorded)
  cases found : table.resolve recorded with
  | bound live => rw [(bound live).mp found]
  | miss id =>
    have unbound : ∀ live, twin.resolve recorded ≠ .bound live := by
      intro live again
      cases found.symm.trans ((bound live).mpr again)
    rw [CursorTable.resolve_miss table found, CursorTable.resolve_of_unbound unbound]

/-- What a holder is told follows the calls that it sees, and one lane that has a holder of its own is
    told the same in either scope. -/
theorem follows_history (trace : CursorTrace scope calls tables)
    (present : holder < tables.homes.length) :
    (∀ recorded live, tables.resolve? holder recorded = some (.bound live) ↔
        BoundTo scope holder recorded calls live) ∧
      (∀ recorded, (∀ live, ¬BoundTo scope holder recorded calls live) →
        tables.resolve? holder recorded = some (.miss recorded)) ∧
      (∃ ids : List Int64, ids.Nodup ∧
        (∀ recorded, recorded ∈ ids ↔
          ∃ live, tables.resolve? holder recorded = some (.bound live)) ∧
        tables.sizes[holder]? = some ids.length ∧
        tables.isEmpty? holder = some (decide (ids.length = 0))) ∧
      (∀ lane recorded, tables.perform ⟨holder, lane, .resolve recorded⟩ = tables) ∧
      ∀ (other : CursorScope) (others : CursorTables) (lane : LaneId),
        CursorTrace other calls others → holder < others.homes.length →
          (∀ recorded, Alone lane holder recorded calls →
            tables.resolve? holder recorded = others.resolve? holder recorded) ∧
          ((∀ recorded, Alone lane holder recorded calls) →
            tables.sizes[holder]? = others.sizes[holder]? ∧
              tables.isEmpty? holder = others.isEmpty? holder) := by
  obtain ⟨table, at_holder, follows⟩ := trace.follows present
  have resolves : ∀ recorded,
      tables.resolve? holder recorded = some (table.resolve recorded) := by
    intro recorded
    rw [CursorTables.resolve?_eq, at_holder]
    rfl
  have bound : ∀ recorded live, tables.resolve? holder recorded = some (.bound live) ↔
      BoundTo scope holder recorded calls live := by
    intro recorded live
    rw [resolves, Option.some.injEq]
    exact follows.resolve recorded live
  refine ⟨bound, ?_, ⟨table.ids, follows.functional, ?_, ?_, ?_⟩, fun _ _ => rfl, ?_⟩
  · intro recorded unbound
    rw [resolves]
    apply congrArg
    apply CursorTable.resolve_of_unbound
    exact fun live again => unbound live ((follows.resolve recorded live).mp again)
  · intro recorded
    rw [CursorTable.mem_ids_iff, resolves]
    simp only [Option.some.injEq]
  · rw [CursorTables.sizes_getElem?, at_holder, CursorTable.ids, List.length_map]
    rfl
  · rw [CursorTables.isEmpty?_eq, at_holder]
    simp [CursorTable.isEmpty, CursorTable.size, CursorTable.ids]
  · intro other others lane same also
    have agrees := fun recorded (alone : Alone lane holder recorded calls) =>
      trace.resolve_of_alone present same also alone
    refine ⟨agrees, fun alone => ?_⟩
    obtain ⟨twin, at_twin, twin_follows⟩ := same.follows also
    have size : table.size = twin.size := by
      apply follows.functional.size_eq twin_follows.functional
      intro recorded
      have equal := agrees recorded (alone recorded)
      rw [resolves, CursorTables.resolve?_eq, at_twin] at equal
      exact Option.some.inj equal
    rw [CursorTables.sizes_getElem?, CursorTables.sizes_getElem?, CursorTables.isEmpty?_eq,
      CursorTables.isEmpty?_eq, at_holder, at_twin]
    simp only [Option.map_some, CursorTable.isEmpty, size, and_self]

end CursorTrace

namespace SampleCursors

def first : LaneId := .ofEndpoints "a" "s"

def second : LaneId := .ofEndpoints "b" "s"

/-- The second lane binds an id again that the first one has bound, and then the first lane ends. -/
def calls : List CursorCall :=
  [⟨0, first, .bind 5 50⟩, ⟨1, second, .bind 5 60⟩, ⟨0, first, .releaseLane⟩]

def tables : CursorTables :=
  calls.foldl CursorTables.perform (((CursorTables.ofScope .global 0).welcome .global).welcome .global)

theorem trace : CursorTrace .global calls tables :=
  (((CursorTrace.start.comes.comes.performs ⟨0, first, .bind 5 50⟩ (by decide)).performs
    ⟨1, second, .bind 5 60⟩ (by decide)).performs ⟨0, first, .releaseLane⟩ (by decide))

theorem boundTo : BoundTo .global 0 5 calls 60 := by
  refine ⟨⟨1, second, .bind 5 60⟩, ⟨[⟨0, first, .bind 5 50⟩], [⟨0, first, .releaseLane⟩], rfl,
    .of_names (.inl rfl) (.inl ⟨60, rfl⟩), ?_⟩, rfl⟩
  intro between later rest split
  have last : between = [] ∧ later = ⟨0, first, .releaseLane⟩ := by
    cases between with
    | nil => exact ⟨rfl, (List.cons.inj split).1.symm⟩
    | cons call between => exact absurd (congrArg List.length split) (by simp)
  obtain ⟨rfl, rfl⟩ := last
  rw [affects_of_releaseLane rfl]
  rintro ⟨_, own | made⟩
  · cases own
  · have latest : LatestBinder .global 0 5
        [⟨0, first, .bind 5 50⟩, ⟨1, second, .bind 5 60⟩] second :=
      ⟨_, ⟨[⟨0, first, .bind 5 50⟩], [], rfl, ⟨.inl rfl, 60, rfl⟩, by simp⟩, rfl⟩
    exact absurd (latest.unique made) (by decide)

end SampleCursors

/-- The binding outlives the lane that made the one before it. -/
theorem sampleCursors_rebound :
    CursorTrace .global SampleCursors.calls SampleCursors.tables ∧
      0 < SampleCursors.tables.homes.length ∧
      SampleCursors.tables.resolve? 0 5 = some (.bound 60) := by
  have present : 0 < SampleCursors.tables.homes.length := by decide
  obtain ⟨bound, _⟩ := SampleCursors.trace.follows_history present
  exact ⟨SampleCursors.trace, present, (bound 5 60).mpr SampleCursors.boundTo⟩

end TrafficReplay
