import TrafficReplay.Lane.Memory
import TrafficReplay.Proofs.Cursor
import TrafficReplay.Proofs.Lane.History

namespace TrafficReplay

namespace CursorTable

theorem resolve_foldl_release (table : CursorTable) (ids : List Int64) (recorded : Int64) :
    (ids.foldl release table).resolve recorded =
      if recorded ∈ ids then .miss recorded else table.resolve recorded := by
  induction ids generalizing table with
  | nil => rfl
  | cons id rest ih =>
    rw [List.foldl_cons, ih]
    by_cases later : recorded ∈ rest
    · rw [if_pos later, if_pos (List.mem_cons_of_mem _ later)]
    · rw [if_neg later]
      by_cases same : recorded = id
      · rw [if_pos (by simp [same]), same, resolve_release_self]
      · rw [if_neg (by simp [same, later]), resolve_release_ne same]

end CursorTable

namespace LaneMemory

variable {memory other : LaneMemory} {common : CursorTable} {past : List Moment}

theorem lookup_forget_self (memory : LaneMemory) (requestId : Int32) :
    (memory.forget requestId).liveCursors.lookup requestId = none :=
  lookup_filter_self memory.liveCursors requestId

theorem lookup_forget_ne (memory : LaneMemory) {requestId different : Int32}
    (apart : different ≠ requestId) :
    (memory.forget requestId).liveCursors.lookup different =
      memory.liveCursors.lookup different :=
  lookup_filter_ne apart

theorem lookup_remember_self (memory : LaneMemory) (requestId : Int32) (live : Int64) :
    (memory.remember requestId live).liveCursors.lookup requestId = some live := by
  simp only [remember, List.lookup_cons_self]

theorem lookup_remember_ne (memory : LaneMemory) {requestId different : Int32} (live : Int64)
    (apart : different ≠ requestId) :
    (memory.remember requestId live).liveCursors.lookup different =
      memory.liveCursors.lookup different := by
  have no_match : (different == requestId) = false := beq_eq_false_iff_ne.mpr apart
  simp only [remember, List.lookup_cons, no_match]
  exact lookup_forget_ne memory apart

theorem releaseIds_own {table : CursorTable} (own : memory.home = .own table)
    (common : CursorTable) (ids : List Int64) :
    memory.releaseIds common ids =
      ({ memory with home := .own (ids.foldl CursorTable.release table) }, common) := by
  unfold releaseIds
  induction ids generalizing memory table with
  | nil => simp only [List.foldl_nil, ← own]
  | cons id rest ih =>
    rw [List.foldl_cons, List.foldl_cons]
    simp only [own, CursorHome.release, CursorHome.modify]
    exact ih rfl

theorem releaseIds_same (memory : LaneMemory) (common : CursorTable) (ids : List Int64) :
    (memory.releaseIds common ids).1 =
      { memory with home := (memory.releaseIds common ids).1.home } := by
  unfold releaseIds
  induction ids generalizing memory common with
  | nil => rfl
  | cons id rest ih =>
    rw [List.foldl_cons]
    exact ih _ _

theorem releaseCursors_same (memory : LaneMemory) (common : CursorTable) (frame : Frame) :
    (memory.releaseCursors common frame).1 =
      { memory with home := (memory.releaseCursors common frame).1.home } := by
  unfold releaseCursors
  split
  · exact releaseIds_same memory common _
  · rfl

theorem onReply_same (memory : LaneMemory) (common : CursorTable) (frame : Frame) (miss : Bool)
    (cursorId : Int64) :
    (memory.onReply common frame miss cursorId).1 =
      { memory with
        home := (memory.onReply common frame miss cursorId).1.home
        liveCursors := (memory.onReply common frame miss cursorId).1.liveCursors } := by
  unfold onReply
  split
  · split
    · rw [releaseCursors_same]
    · rfl
  · split <;> rfl

theorem correlate_same (memory : LaneMemory) (common : CursorTable) (lane : LaneId)
    (reply : Frame) :
    (memory.correlate common lane reply).1 =
      { memory with
        home := (memory.correlate common lane reply).1.home
        liveCursors := (memory.correlate common lane reply).1.liveCursors } := by
  unfold correlate
  dsimp only
  split <;> rfl

@[simp] theorem releaseIds_liveCursors (memory : LaneMemory) (common : CursorTable)
    (ids : List Int64) : (memory.releaseIds common ids).1.liveCursors = memory.liveCursors := by
  rw [releaseIds_same]

@[simp] theorem releaseCursors_liveCursors (memory : LaneMemory) (common : CursorTable)
    (frame : Frame) : (memory.releaseCursors common frame).1.liveCursors = memory.liveCursors := by
  rw [releaseCursors_same]

theorem lookup_forget_iff (memory : LaneMemory) {requestId used : Int32} {live : Int64} :
    (memory.forget used).liveCursors.lookup requestId = some live ↔
      memory.liveCursors.lookup requestId = some live ∧ requestId ≠ used := by
  by_cases same : requestId = used
  · rw [same, lookup_forget_self]
    simp
  · rw [lookup_forget_ne memory same]
    simp [same]

theorem leftOpen_concat {moment : Moment} {requestId : Int32} {live : Int64}
    (leaves : ∀ live, ¬moment.Leaves requestId live) (keeps : ¬moment.Consumes requestId) :
    LeftOpen (past ++ [moment]) requestId live ↔ LeftOpen past requestId live := by
  unfold LeftOpen
  rw [since_concat]
  constructor
  · rintro (left | ⟨before, _⟩)
    · exact absurd left (leaves live)
    · exact before
  · intro before
    refine .inr ⟨before, ?_⟩
    rintro (⟨other, left⟩ | used)
    · exact leaves other left
    · exact keeps used

def Remembered (memory : LaneMemory) (past : List Moment) : Prop :=
  ∀ requestId live,
    memory.liveCursors.lookup requestId = some live ↔ LeftOpen past requestId live

theorem Remembered.fresh (scope : CursorScope) : (fresh scope).Remembered [] := by
  intro requestId live
  refine ⟨fun found => ?_, fun since => absurd since not_since_nil⟩
  cases found

theorem Remembered.of_same (remembered : memory.Remembered past)
    (live : other.liveCursors = memory.liveCursors) : other.Remembered past := by
  unfold Remembered
  rw [live]
  exact remembered

theorem Remembered.silent (remembered : memory.Remembered past) {moment : Moment}
    (live : other.liveCursors = memory.liveCursors)
    (silent : ∀ requestId live, ¬moment.Leaves requestId live)
    (keeps : ∀ requestId, ¬moment.Consumes requestId) : other.Remembered (past ++ [moment]) := by
  intro requestId cursor
  rw [live, leftOpen_concat (silent requestId) (keeps requestId)]
  exact remembered requestId cursor

theorem Remembered.kill (remembered : memory.Remembered past) (common : CursorTable)
    (frame : Frame) : (memory.releaseCursors common frame).1.Remembered (past ++ [.killed frame]) :=
  remembered.silent (releaseCursors_liveCursors memory common frame) (fun _ _ => id) fun _ => id

theorem Remembered.answer (remembered : memory.Remembered past) (common : CursorTable)
    (frame : Frame) (miss : Bool) (cursorId : Int64) :
    (memory.onReply common frame miss cursorId).1.Remembered
      (past ++ [.answered frame miss cursorId]) := by
  unfold onReply
  by_cases continues : frame.opCode = .getMore ∧ miss = false
  · have silent : ∀ requestId live,
        ¬(Moment.answered frame miss cursorId).Leaves requestId live := by
      rintro requestId live ⟨_, _, _, other⟩
      exact other continues
    rw [if_pos (by simp [continues])]
    split
    · exact remembered.silent (releaseCursors_liveCursors memory common frame) silent fun _ => id
    · exact remembered.silent rfl silent fun _ => id
  · rw [if_neg (by simpa using continues)]
    by_cases exhausted : cursorId = 0
    · rw [if_pos exhausted]
      refine remembered.silent rfl ?_ fun _ => id
      rintro requestId live ⟨_, equal, nonzero, _⟩
      exact nonzero (equal.symm.trans exhausted)
    · rw [if_neg exhausted]
      intro requestId live
      by_cases own : requestId = frame.requestId
      · rw [own, lookup_remember_self]
        unfold LeftOpen
        rw [since_concat]
        constructor
        · intro found
          cases found
          exact .inl ⟨rfl, rfl, exhausted, continues⟩
        · rintro (⟨_, equal, _⟩ | ⟨_, kept⟩)
          · rw [equal]
          · exact absurd (.inl ⟨cursorId, rfl, rfl, exhausted, continues⟩) kept
      · rw [lookup_remember_ne _ _ own, leftOpen_concat _ id]
        · exact remembered requestId live
        · rintro other ⟨same, _⟩
          exact own same.symm

theorem Remembered.forget (remembered : memory.Remembered past) (reply : Frame) :
    (memory.forget reply.responseTo).Remembered (past ++ [.recalled reply]) := by
  intro requestId live
  rw [lookup_forget_iff, remembered]
  unfold LeftOpen
  rw [since_concat]
  constructor
  · rintro ⟨left, other⟩
    refine .inr ⟨left, ?_⟩
    rintro (⟨_, leaves⟩ | used)
    · exact leaves
    · exact other used.symm
  · rintro (leaves | ⟨left, kept⟩)
    · exact leaves.elim
    · exact ⟨left, fun same => kept (.inr same.symm)⟩

theorem Remembered.correlate (remembered : memory.Remembered past) (common : CursorTable)
    (lane : LaneId) (reply : Frame) :
    (memory.correlate common lane reply).1.Remembered (past ++ [.recalled reply]) := by
  refine (remembered.forget reply).of_same ?_
  unfold LaneMemory.correlate
  dsimp only
  split <;> rfl

/-- What a memory holds is what a history says. -/
structure Recalls (memory : LaneMemory) (past : List Moment) : Prop where
  bound : ∃ table, memory.home = .own table ∧
    ∀ recorded live, table.resolve recorded = .bound live ↔ Translates past recorded live
  remembered : ∀ requestId live,
    memory.liveCursors.lookup requestId = some live ↔ LeftOpen past requestId live

theorem Recalls.fresh : (fresh .lane).Recalls [] where
  bound := by
    refine ⟨.empty, rfl, fun recorded live => ⟨fun bound => ?_, fun since => ?_⟩⟩
    · cases bound
    · exact absurd since not_since_nil
  remembered := Remembered.fresh .lane

theorem Recalls.of_same (recalls : memory.Recalls past) (home : other.home = memory.home)
    (live : other.liveCursors = memory.liveCursors) : other.Recalls past :=
  ⟨home ▸ recalls.bound, live ▸ recalls.remembered⟩

theorem translates_concat {moment : Moment} {recorded live : Int64}
    (binds : ∀ live, ¬Binds past moment recorded live) :
    Translates (past ++ [moment]) recorded live ↔
      Translates past recorded live ∧ ¬(moment.Kills recorded ∨ moment.Exhausts recorded) := by
  unfold Translates
  rw [since_concat]
  constructor
  · rintro (bound | ⟨before, kept⟩)
    · exact absurd bound (binds live)
    · exact ⟨before, fun ended => kept (.inr ended)⟩
  · rintro ⟨before, kept⟩
    refine .inr ⟨before, ?_⟩
    rintro (⟨other, bound⟩ | ended)
    · exact binds other bound
    · exact kept ended

theorem Recalls.release (recalls : memory.Recalls past) (common : CursorTable) {ids : List Int64}
    {moment : Moment}
    (silent : ∀ requestId live, ¬moment.Leaves requestId live)
    (keeps : ∀ requestId, ¬moment.Consumes requestId)
    (binds : ∀ recorded live, ¬Binds past moment recorded live)
    (ends : ∀ recorded, recorded ∈ ids ↔ moment.Kills recorded ∨ moment.Exhausts recorded) :
    (memory.releaseIds common ids).1.Recalls (past ++ [moment]) := by
  have remembered : memory.Remembered past := recalls.remembered
  obtain ⟨table, own, bound⟩ := recalls.bound
  refine ⟨?_, remembered.silent (releaseIds_liveCursors memory common ids) silent keeps⟩
  rw [releaseIds_own own]
  refine ⟨_, rfl, fun recorded live => ?_⟩
  rw [translates_concat (binds recorded), ← ends, ← bound, CursorTable.resolve_foldl_release]
  split
  · rename_i member
    simp [member]
  · rename_i absent
    simp [absent]

theorem Recalls.releaseCursors (recalls : memory.Recalls past) (common : CursorTable)
    {frame : Frame} {moment : Moment}
    (silent : ∀ requestId live, ¬moment.Leaves requestId live)
    (keeps : ∀ requestId, ¬moment.Consumes requestId)
    (binds : ∀ recorded live, ¬Binds past moment recorded live)
    (ends : ∀ recorded, (∃ ids, frame.cursorIds = .ok ids ∧ recorded ∈ ids) ↔
      moment.Kills recorded ∨ moment.Exhausts recorded) :
    (memory.releaseCursors common frame).1.Recalls (past ++ [moment]) := by
  unfold LaneMemory.releaseCursors
  cases read : frame.cursorIds with
  | ok ids =>
    refine recalls.release common silent keeps binds fun recorded => ?_
    rw [← ends]
    simp [read]
  | error fault =>
    have nothing : ∀ recorded, recorded ∈ ([] : List Int64) ↔
        moment.Kills recorded ∨ moment.Exhausts recorded := by
      intro recorded
      rw [← ends]
      simp [read]
    exact recalls.release common silent keeps binds nothing

theorem Recalls.kill (recalls : memory.Recalls past) (common : CursorTable) (frame : Frame) :
    (memory.releaseCursors common frame).1.Recalls (past ++ [.killed frame]) := by
  refine recalls.releaseCursors common (fun _ _ => id) (fun _ => id) ?_ fun recorded => ?_
  · rintro recorded live ⟨reply, summary, other, _⟩
    cases other
  · exact ⟨.inl, fun ended => ended.elim id False.elim⟩

/-- The live reply to a request changes a memory as it changes the history. -/
theorem Recalls.answer (recalls : memory.Recalls past) (common : CursorTable) (frame : Frame)
    (miss : Bool) (cursorId : Int64) :
    (memory.onReply common frame miss cursorId).1.Recalls
      (past ++ [.answered frame miss cursorId]) := by
  have binds : ∀ recorded live, ¬Binds past (.answered frame miss cursorId) recorded live := by
    rintro recorded live ⟨reply, summary, other, _⟩
    cases other
  -- When no binding ends, only what was left open can change.
  have unended : (∀ recorded, ¬(Moment.answered frame miss cursorId).Exhausts recorded) →
      ∃ table, memory.home = .own table ∧ ∀ recorded live, table.resolve recorded = .bound live ↔
        Translates (past ++ [.answered frame miss cursorId]) recorded live := by
    intro kept
    obtain ⟨table, own, bound⟩ := recalls.bound
    refine ⟨table, own, fun recorded live => ?_⟩
    rw [translates_concat (binds recorded), bound]
    exact ⟨fun before => ⟨before, fun ended => ended.elim id (kept recorded)⟩, And.left⟩
  have remembered := Remembered.answer recalls.remembered common frame miss cursorId
  unfold onReply at remembered
  unfold onReply
  by_cases continues : frame.opCode = .getMore ∧ miss = false
  · have silent : ∀ requestId live,
        ¬(Moment.answered frame miss cursorId).Leaves requestId live := by
      rintro requestId live ⟨_, _, _, other⟩
      exact other continues
    have bound_more : (frame.opCode = .getMore && !miss) = true := by simp [continues]
    rw [if_pos bound_more] at remembered ⊢
    by_cases exhausted : cursorId = 0
    · rw [if_pos exhausted]
      refine recalls.releaseCursors common silent (fun _ => id) binds fun recorded => ?_
      constructor
      · exact fun named => .inr ⟨continues.1, continues.2, exhausted, named⟩
      · rintro (ended | ⟨_, _, _, named⟩)
        · exact ended.elim
        · exact named
    · rw [if_neg exhausted] at remembered ⊢
      refine ⟨unended ?_, remembered⟩
      rintro recorded ⟨_, _, zero, _⟩
      exact exhausted zero
  · have spared : ∀ recorded, ¬(Moment.answered frame miss cursorId).Exhausts recorded := by
      rintro recorded ⟨more, bound, _⟩
      exact continues ⟨more, bound⟩
    have unbound_more : ¬(frame.opCode = .getMore && !miss) = true := by simpa using continues
    rw [if_neg unbound_more] at remembered ⊢
    split
    · rename_i exhausted
      rw [if_pos exhausted] at remembered
      exact ⟨unended spared, remembered⟩
    · rename_i going
      rw [if_neg going] at remembered
      exact ⟨unended spared, remembered⟩

theorem Recalls.binding (recalls : memory.Recalls past) (reply : Frame) (recorded live : Int64) :
    memory.binding? reply = some (recorded, live) ↔ Binds past (.recalled reply) recorded live := by
  unfold binding? Binds
  constructor
  · intro found
    split at found
    · rename_i open_cursor summary remembered readable
      split at found
      · cases found
      · rename_i nonzero
        cases found
        exact ⟨reply, summary, rfl, readable, rfl, nonzero, (recalls.remembered _ _).mp remembered⟩
    · cases found
  · rintro ⟨other, summary, same, readable, rfl, nonzero, left⟩
    cases same
    rw [(recalls.remembered _ _).mpr left, readable]
    simp [nonzero]

/-- A recorded reply changes a memory as it changes the history. -/
theorem Recalls.correlate (recalls : memory.Recalls past) (lane : LaneId) (reply : Frame) :
    (memory.correlate common lane reply).1.Recalls (past ++ [.recalled reply]) := by
  have forgets : (memory.forget reply.responseTo).Remembered (past ++ [.recalled reply]) :=
    Remembered.forget recalls.remembered reply
  obtain ⟨table, own, bound⟩ := recalls.bound
  unfold LaneMemory.correlate
  dsimp only
  split
  · rename_i nothing
    refine ⟨⟨table, own, fun recorded live => ?_⟩, forgets⟩
    rw [translates_concat, bound]
    · exact ⟨fun before => ⟨before, fun ended => ended.elim id id⟩, And.left⟩
    · intro other binds
      have found := (recalls.binding reply recorded other).mpr binds
      rw [nothing] at found
      cases found
  · rename_i named target found
    rw [own]
    refine ⟨⟨_, rfl, fun recorded live => ?_⟩, forgets⟩
    have binds := (recalls.binding reply named target).mp found
    by_cases same : recorded = named
    · rw [same, CursorTable.resolve_bind_self]
      unfold Translates
      rw [since_concat]
      constructor
      · intro equal
        cases equal
        exact .inl binds
      · rintro (again | ⟨_, kept⟩)
        · have equal := (recalls.binding reply named live).mpr again
          rw [found] at equal
          cases equal
          rfl
        · exact absurd (.inl ⟨target, binds⟩) kept
    · rw [CursorTable.resolve_bind_ne lane same, translates_concat, bound]
      · exact ⟨fun before => ⟨before, fun ended => ended.elim id id⟩, And.left⟩
      · intro other again
        have equal := (recalls.binding reply recorded other).mpr again
        rw [found] at equal
        cases equal
        exact same rfl

end LaneMemory

end TrafficReplay
