import Mathlib.Data.List.Perm.Basic
import TrafficReplay.Cursor

namespace TrafficReplay

section

variable {α β : Type} [DecidableEq α]

theorem lookup_filter_self (entries : List (α × β)) (key : α) :
    (entries.filter fun entry => entry.1 ≠ key).lookup key = none := by
  rw [List.lookup_eq_none_iff]
  intro entry member
  have different : entry.1 ≠ key := by simpa using (List.mem_filter.mp member).2
  exact bne_iff_ne.mpr different.symm

theorem lookup_filter_ne {entries : List (α × β)} {key other : α} (different : key ≠ other) :
    (entries.filter fun entry => entry.1 ≠ other).lookup key = entries.lookup key := by
  induction entries with
  | nil => rfl
  | cons entry rest ih =>
    obtain ⟨found, value⟩ := entry
    by_cases dropped : found = other
    · have apart : (key == found) = false := beq_eq_false_iff_ne.mpr (dropped ▸ different)
      rw [List.filter_cons_of_neg (by simpa using dropped), ih, List.lookup_cons, apart]
    · rw [List.filter_cons_of_pos (by simpa using dropped), List.lookup_cons, List.lookup_cons, ih]

theorem mem_of_lookup {entries : List (α × β)} {key : α} {value : β}
    (found : entries.lookup key = some value) : (key, value) ∈ entries := by
  induction entries with
  | nil => cases found
  | cons entry rest ih =>
    obtain ⟨other, first⟩ := entry
    rw [List.lookup_cons] at found
    split at found
    · rename_i same
      cases found
      rw [beq_iff_eq.mp same]
      exact List.mem_cons_self
    · exact List.mem_cons_of_mem _ (ih found)

theorem lookup_eq_none_iff_not_mem {entries : List (α × β)} {key : α} :
    entries.lookup key = none ↔ key ∉ entries.map Prod.fst := by
  rw [List.lookup_eq_none_iff]
  constructor
  · intro apart member
    obtain ⟨entry, bound, same⟩ := List.mem_map.mp member
    exact bne_iff_ne.mp (apart entry bound) same.symm
  · intro absent entry bound
    apply bne_iff_ne.mpr
    rintro rfl
    exact absent (List.mem_map.mpr ⟨entry, bound, rfl⟩)

theorem lookup_filter_value {entries : List (α × β)} (single : (entries.map Prod.fst).Nodup)
    (keeps : β → Bool) (key : α) :
    (entries.filter fun entry => keeps entry.2).lookup key = (entries.lookup key).filter keeps := by
  induction entries with
  | nil => rfl
  | cons entry rest ih =>
    obtain ⟨found, value⟩ := entry
    obtain ⟨absent, single⟩ := List.nodup_cons.mp single
    have below := ih single
    by_cases same : key = found
    · subst same
      rw [List.lookup_cons_self]
      by_cases kept : keeps value
      · rw [List.filter_cons_of_pos (by exact kept), List.lookup_cons_self, Option.filter_some,
          if_pos kept]
      · rw [List.filter_cons_of_neg (by exact kept), below, Option.filter_some, if_neg kept,
          lookup_eq_none_iff_not_mem.mpr absent]
        rfl
    · have apart : (key == found) = false := beq_eq_false_iff_ne.mpr same
      rw [List.lookup_cons, apart]
      by_cases kept : keeps value
      · rw [List.filter_cons_of_pos (by exact kept), List.lookup_cons, apart]
        exact below
      · rw [List.filter_cons_of_neg (by exact kept)]
        exact below

end

namespace CursorTable

variable {table : CursorTable} {recorded other live : Int64}

@[simp] theorem resolve_empty (recorded : Int64) : empty.resolve recorded = .miss recorded := rfl

@[simp] theorem resolve_release_self (table : CursorTable) (recorded : Int64) :
    (table.release recorded).resolve recorded = .miss recorded := by
  unfold resolve release
  rw [lookup_filter_self]

theorem resolve_release_ne (different : other ≠ recorded) :
    (table.release recorded).resolve other = table.resolve other := by
  unfold resolve release
  rw [lookup_filter_ne different]

@[simp] theorem resolve_bind_self (table : CursorTable) (lane : LaneId) (recorded live : Int64) :
    (table.bind lane recorded live).resolve recorded = .bound live := by
  unfold resolve bind
  rw [List.lookup_cons_self]

theorem resolve_bind_ne (lane : LaneId) (different : other ≠ recorded) :
    (table.bind lane recorded live).resolve other = table.resolve other := by
  have apart : (other == recorded) = false := beq_eq_false_iff_ne.mpr different
  have released : (table.release recorded).resolve other = table.resolve other :=
    resolve_release_ne different
  rw [← released]
  unfold resolve bind
  rw [List.lookup_cons, apart]

theorem resolve_miss (table : CursorTable) {id : Int64}
    (miss : table.resolve recorded = .miss id) : id = recorded := by
  unfold resolve at miss
  split at miss
  · cases miss
  · cases miss
    rfl

def ids (table : CursorTable) : List Int64 := table.bindings.map Prod.fst

def IsFunctional (table : CursorTable) : Prop := table.ids.Nodup

theorem IsFunctional.filter (single : table.IsFunctional) (keeps : Int64 × CursorBinding → Bool) :
    (⟨table.bindings.filter keeps⟩ : CursorTable).IsFunctional :=
  single.sublist (List.filter_sublist.map Prod.fst)

theorem IsFunctional.bind (single : table.IsFunctional) (lane : LaneId) (recorded live : Int64) :
    (table.bind lane recorded live).IsFunctional := by
  apply List.nodup_cons.mpr
  refine ⟨?_, single.filter _⟩
  intro member
  obtain ⟨entry, kept, same⟩ := List.mem_map.mp member
  have different : entry.1 ≠ recorded := by simpa using (List.mem_filter.mp kept).2
  exact different same

theorem lookup_release (table : CursorTable) (recorded other : Int64) :
    (table.release recorded).bindings.lookup other =
      if other = recorded then none else table.bindings.lookup other := by
  by_cases same : other = recorded
  · rw [if_pos same, same]
    exact lookup_filter_self table.bindings recorded
  · rw [if_neg same]
    exact lookup_filter_ne same

theorem lookup_bind (table : CursorTable) (lane : LaneId) (recorded live other : Int64) :
    (table.bind lane recorded live).bindings.lookup other =
      if other = recorded then some ⟨live, lane⟩ else table.bindings.lookup other := by
  by_cases same : other = recorded
  · rw [if_pos same, same]
    exact List.lookup_cons_self
  · have apart : (other == recorded) = false := beq_eq_false_iff_ne.mpr same
    have released := table.lookup_release recorded other
    rw [if_neg same] at released
    rw [if_neg same, ← released]
    show List.lookup other (_ :: _) = _
    rw [List.lookup_cons, apart]

theorem IsFunctional.lookup_releaseOwner (single : table.IsFunctional) (lane : LaneId)
    (recorded : Int64) :
    (table.releaseOwner lane).bindings.lookup recorded =
      (table.bindings.lookup recorded).filter fun binding => binding.owner ≠ lane :=
  lookup_filter_value single (fun binding => binding.owner ≠ lane) recorded

theorem resolve_eq_bound_iff (table : CursorTable) (recorded live : Int64) :
    table.resolve recorded = .bound live ↔
      ∃ lane, table.bindings.lookup recorded = some ⟨live, lane⟩ := by
  unfold resolve
  cases found : table.bindings.lookup recorded with
  | none => simp
  | some binding =>
    obtain ⟨bound, owner⟩ := binding
    simp

theorem resolve_of_unbound (unbound : ∀ live, table.resolve recorded ≠ .bound live) :
    table.resolve recorded = .miss recorded := by
  cases found : table.resolve recorded with
  | bound live => exact absurd found (unbound live)
  | miss id => rw [resolve_miss table found]

theorem mem_ids_iff (table : CursorTable) (recorded : Int64) :
    recorded ∈ table.ids ↔ ∃ live, table.resolve recorded = .bound live := by
  have bound_iff : (∃ live, table.resolve recorded = .bound live) ↔
      table.bindings.lookup recorded ≠ none := by
    cases found : table.bindings.lookup recorded with
    | none => simp [resolve, found]
    | some binding => simp [resolve, found]
  rw [bound_iff, ne_eq, lookup_eq_none_iff_not_mem, not_not]
  rfl

theorem IsFunctional.size_eq {twin : CursorTable} (single : table.IsFunctional)
    (twin_single : twin.IsFunctional)
    (same : ∀ recorded, table.resolve recorded = twin.resolve recorded) :
    table.size = twin.size := by
  have perm : table.ids.Perm twin.ids := by
    apply (List.perm_ext_iff_of_nodup single twin_single).mpr
    intro recorded
    rw [mem_ids_iff, mem_ids_iff, same]
  have length := perm.length_eq
  unfold ids at length
  rw [List.length_map, List.length_map] at length
  exact length

end CursorTable

end TrafficReplay
