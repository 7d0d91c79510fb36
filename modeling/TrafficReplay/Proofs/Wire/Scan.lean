import TrafficReplay.Proofs.Wire.Field

namespace TrafficReplay.Frame

/-- A round of the scan: it is the last and has a result, or the section is passed over by the size
    that it declares. -/
inductive SectionRound where
  | last (result : Except FrameFault Document)
  | onward (size : Nat)

def sectionRound (body : List UInt8) (stop pos : Nat) : SectionRound :=
  if pos < stop then
    match body[pos]? with
    | none => .last (.error (.truncated pos))
    | some kind =>
      if kind = 0 then .last ((readDocument body (pos + 1)).map Prod.fst)
      else if kind = 1 then
        match readInt32 body (pos + 1) with
        | .error fault => .last (.error fault)
        | .ok size =>
          if size < 0 then .last (.error .negativeSectionSize) else .onward size.toNatClampNeg
      else .last (.error (.unknownSection kind))
  else .last (.error .noBodySection)

/-- What the round at a position reads: a first byte, and then what that byte announces. -/
def roundReads (body : List UInt8) (stop pos : Nat) : List Span :=
  if pos < stop then
    ⟨pos, 1⟩ ::
      if body[pos]? = some 0 then documentReads body (pos + 1)
      else if body[pos]? = some 1 then int32Reads body (pos + 1)
      else []
  else []

/-- A section that is passed over: where it begins and the size that it declares. -/
structure Passed where
  start : Nat
  size : Nat
deriving DecidableEq, Repr

/-- The scan from a position on: the sections that it passes over, what it reads and its result. -/
inductive Scans (body : List UInt8) (stop : Nat) :
    Nat → List Passed → List Span → Except FrameFault Document → Prop
  | ends {pos : Nat} {result : Except FrameFault Document}
      (last : sectionRound body stop pos = .last result) :
      Scans body stop pos [] (roundReads body stop pos) result
  | passes {pos size : Nat} {passed : List Passed} {reads : List Span}
      {result : Except FrameFault Document} (onward : sectionRound body stop pos = .onward size)
      (rest : Scans body stop (pos + 1 + size) passed reads result) :
      Scans body stop pos (⟨pos, size⟩ :: passed) (roundReads body stop pos ++ reads) result

section Round

variable {body other : List UInt8} {stop pos size : Nat}

theorem sectionRound_eq_onward :
    sectionRound body stop pos = .onward size ↔
      pos < stop ∧ body[pos]? = some 1 ∧
        ∃ number, readInt32 body (pos + 1) = .ok number ∧ number.toInt = size := by
  unfold sectionRound
  constructor
  · intro round
    split at round
    · rename_i before
      split at round
      · cases round
      · rename_i kind held
        split at round
        · cases round
        · split at round
          · rename_i one
            split at round
            · cases round
            · rename_i number declared
              split at round
              · cases round
              · rename_i positive
                cases round
                rw [Int32.lt_iff_toInt_lt] at positive
                have clamp := number.toNat_toInt
                change ¬number.toInt < 0 at positive
                exact ⟨before, by rw [held, one], number, declared, by omega⟩
          · cases round
    · cases round
  · rintro ⟨before, kind, number, declared, value⟩
    obtain ⟨positive, clamp⟩ := clamp_of_toInt value
    simp [before, kind, declared, positive, clamp]

theorem sectionRound_eq_ok {doc : Document} :
    sectionRound body stop pos = .last (.ok doc) ↔
      pos < stop ∧ body[pos]? = some 0 ∧ ∃ next, readDocument body (pos + 1) = .ok (doc, next) := by
  unfold sectionRound
  constructor
  · intro round
    split at round
    · rename_i before
      split at round
      · cases round
      · rename_i kind held
        split at round
        · rename_i zero
          obtain ⟨found, read, rfl⟩ := map_eq_ok.mp (SectionRound.last.inj round)
          exact ⟨before, by rw [held, zero], found.2, read⟩
        · split at round
          · split at round
            · cases round
            · split at round <;> cases round
          · cases round
    · cases round
  · rintro ⟨before, kind, next, read⟩
    simp [before, kind, read, Except.map]

theorem roundReads_onward (round : sectionRound body stop pos = .onward size) :
    roundReads body stop pos = [⟨pos, 1⟩, ⟨pos + 1, 4⟩] := by
  obtain ⟨before, kind, number, declared, _⟩ := sectionRound_eq_onward.mp round
  simp [roundReads, before, kind, int32Reads, readInt32_within declared]

theorem roundReads_within (within : stop ≤ body.length) :
    ∀ span ∈ roundReads body stop pos, span.Within pos body := by
  intro span member
  unfold roundReads at member
  split at member
  · rename_i before
    rcases List.mem_cons.mp member with rfl | member
    · exact ⟨Nat.le_refl _, Nat.lt_of_lt_of_le before within⟩
    · have later : span.Within (pos + 1) body := by
        split at member
        · exact documentReads_within span member
        · split at member
          · exact int32Reads_within span member
          · cases member
      exact ⟨Nat.le_of_succ_le later.1, later.2⟩
  · cases member

theorem sectionRound_of_agree (agree : AgreeOn (roundReads body stop pos) body other) :
    sectionRound other stop pos = sectionRound body stop pos ∧
      roundReads other stop pos = roundReads body stop pos := by
  by_cases before : pos < stop
  · have reads : roundReads body stop pos = _ := if_pos before
    rw [reads] at agree
    have kind : other[pos]? = body[pos]? :=
      (agree.same ⟨pos, 1⟩ List.mem_cons_self pos (Nat.le_refl _) (Nat.lt_succ_self pos)).symm
    have after := agree.mono fun _ member => List.mem_cons_of_mem _ member
    by_cases zero : body[pos]? = some 0
    · rw [if_pos zero] at after
      have number := readInt32_of_agree (after.mono fun _ member => List.mem_append_left _ member)
      have document := readDocument_of_agree after
      simp [sectionRound, roundReads, documentReads, int32Reads, before, kind, zero, number, document,
        agree.length]
    · rw [if_neg zero] at after
      by_cases one : body[pos]? = some 1
      · rw [if_pos one] at after
        have number := readInt32_of_agree after
        simp [sectionRound, roundReads, int32Reads, before, kind, one, number, agree.length]
      · have unread (held : UInt8) (present : body[pos]? = some held) : held ≠ 0 ∧ held ≠ 1 :=
          ⟨fun same => zero (same ▸ present), fun same => one (same ▸ present)⟩
        simp only [sectionRound, roundReads, if_pos before, kind, if_neg zero, if_neg one, and_true]
        cases present : body[pos]? with
        | none => rfl
        | some held =>
          obtain ⟨nonzero, nonone⟩ := unread held present
          simp only [if_neg nonzero, if_neg nonone]
  · simp [sectionRound, roundReads, before]

theorem bodySection_eq (body : List UInt8) (stop pos : Nat) : bodySection body stop pos =
    match sectionRound body stop pos with
    | .last result => result
    | .onward size => bodySection body stop (pos + 1 + size) := by
  rw [bodySection]
  unfold sectionRound
  by_cases before : pos < stop
  · simp only [if_pos before]
    cases body[pos]? with
    | none => rfl
    | some kind =>
      by_cases zero : kind = 0
      · simp only [if_pos zero]
      · by_cases one : kind = 1
        · simp only [if_neg zero, if_pos one]
          cases readInt32 body (pos + 1) with
          | error fault => rfl
          | ok size => by_cases negative : size < 0 <;> simp only [negative, if_true, if_false]
        · simp only [if_neg zero, if_neg one]
  · simp only [if_neg before]

end Round

namespace Scans

variable {body other : List UInt8} {stop pos : Nat} {passed others : List Passed}
  {reads spans : List Span} {result again : Except FrameFault Document}

theorem total (body : List UInt8) (stop pos : Nat) :
    ∃ passed reads, Scans body stop pos passed reads (bodySection body stop pos) := by
  rw [Frame.bodySection_eq]
  cases round : sectionRound body stop pos with
  | last result => exact ⟨[], _, .ends round⟩
  | onward size =>
    -- Even a size of zero leaves the first byte of the section behind.
    have before := (sectionRound_eq_onward.mp round).1
    obtain ⟨passed, reads, rest⟩ := total body stop (pos + 1 + size)
    exact ⟨_, _, .passes round rest⟩
termination_by stop - pos

theorem unique (scan : Scans body stop pos passed reads result)
    (second : Scans body stop pos others spans again) :
    passed = others ∧ reads = spans ∧ result = again := by
  induction scan generalizing others spans with
  | ends last =>
    cases second with
    | ends other =>
      cases last.symm.trans other
      exact ⟨rfl, rfl, rfl⟩
    | passes onward rest => cases last.symm.trans onward
  | passes onward rest ih =>
    cases second with
    | ends last => cases last.symm.trans onward
    | passes other later =>
      cases onward.symm.trans other
      obtain ⟨rfl, rfl, rfl⟩ := ih later
      exact ⟨rfl, rfl, rfl⟩

theorem bodySection_eq (scan : Scans body stop pos passed reads result) :
    bodySection body stop pos = result := by
  obtain ⟨_, _, whole⟩ := total body stop pos
  exact (whole.unique scan).2.2

/-- The scan goes strictly forward, and what it passes over begins before the end. -/
theorem forward (scan : Scans body stop pos passed reads result) :
    (passed.map Passed.start).Pairwise (· < ·) ∧
      ∀ entry ∈ passed, pos ≤ entry.start ∧ entry.start < stop := by
  induction scan with
  | ends => exact ⟨.nil, List.forall_mem_nil _⟩
  | passes onward rest ih =>
    obtain ⟨increasing, bounds⟩ := ih
    have before := (sectionRound_eq_onward.mp onward).1
    refine ⟨?_, List.forall_mem_cons.mpr ⟨⟨Nat.le_refl _, before⟩, fun later member => ?_⟩⟩
    · rw [List.map_cons, List.pairwise_cons]
      refine ⟨fun start member => ?_, increasing⟩
      obtain ⟨later, held, rfl⟩ := List.mem_map.mp member
      have above := (bounds later held).1
      dsimp only
      omega
    · obtain ⟨above, below⟩ := bounds later member
      exact ⟨by omega, below⟩

theorem length_le (scan : Scans body stop pos passed reads result) :
    passed.length ≤ stop - pos := by
  induction scan with
  | ends => exact Nat.zero_le _
  | passes onward rest ih =>
    have before := (sectionRound_eq_onward.mp onward).1
    rw [List.length_cons]
    omega

/-- The scan reads inside the body only. -/
theorem within (scan : Scans body stop pos passed reads result) (within : stop ≤ body.length) :
    ∀ span ∈ reads, span.Within pos body := by
  induction scan with
  | ends => exact roundReads_within within
  | passes onward rest ih =>
    intro span member
    rcases List.mem_append.mp member with member | member
    · exact roundReads_within within span member
    · obtain ⟨above, below⟩ := ih span member
      exact ⟨by omega, below⟩

/-- Bodies that agree where a scan reads are scanned alike. -/
theorem of_agree (scan : Scans body stop pos passed reads result)
    (agree : AgreeOn reads body other) : Scans other stop pos passed reads result := by
  induction scan with
  | ends last =>
    obtain ⟨round, same⟩ := sectionRound_of_agree agree
    rw [← same]
    exact .ends (round.trans last)
  | passes onward rest ih =>
    obtain ⟨round, same⟩ :=
      sectionRound_of_agree (agree.mono fun _ member => List.mem_append_left _ member)
    rw [← same]
    exact .passes (round.trans onward)
      (ih (agree.mono fun _ member => List.mem_append_right _ member))

end Scans

end TrafficReplay.Frame
