import TrafficReplay.Record

namespace TrafficReplay.LaneId

instance : Std.TransCmp compare :=
  inferInstanceAs (Std.TransCmp (compareLex (compareOn low) (compareOn high)))

instance : Std.LawfulEqCmp compare where
  eq_of_compare := by
    rintro ⟨low, high, _⟩ ⟨low', high', _⟩ same
    obtain ⟨lows, highs⟩ := Ordering.then_eq_eq.mp same
    cases Std.LawfulEqOrd.eq_of_compare (α := String) lows
    cases Std.LawfulEqOrd.eq_of_compare (α := String) highs
    rfl

/-- Two lanes have one text, which the first one cuts earlier: where the second one is cut, the first
    has a separator in its higher endpoint. -/
def Overlaps (a b : LaneId) : Prop :=
  ∃ middle, a.high = middle ++ "<->" ++ b.high ∧ b.low = a.low ++ "<->" ++ middle

def Whole (endpoint : String) : Prop :=
  ∀ front back, endpoint ≠ front ++ "<->" ++ back

section joined

variable {front back low high gap rest : List Char}

/-- Separators do not overlap. -/
theorem separators_apart (same : '<' :: '-' :: '>' :: back = gap ++ '<' :: '-' :: '>' :: rest) :
    gap = [] ∧ back = rest ∨
      ∃ middle, gap = '<' :: '-' :: '>' :: middle ∧ back = middle ++ '<' :: '-' :: '>' :: rest := by
  match gap with
  | [] => exact .inl ⟨rfl, by simpa using same⟩
  | [_] | [_, _] => simp at same
  | first :: second :: third :: middle =>
    simp only [List.cons_append, List.cons.injEq] at same
    obtain ⟨rfl, rfl, rfl, split⟩ := same
    exact .inr ⟨middle, rfl, split⟩

theorem joined_cases (same : front ++ '<' :: '-' :: '>' :: back = low ++ '<' :: '-' :: '>' :: high) :
    front = low ∧ back = high ∨
      (∃ middle, back = middle ++ '<' :: '-' :: '>' :: high ∧
        low = front ++ '<' :: '-' :: '>' :: middle) ∨
      ∃ middle, high = middle ++ '<' :: '-' :: '>' :: back ∧
        front = low ++ '<' :: '-' :: '>' :: middle := by
  rcases List.append_eq_append_iff.mp same with ⟨gap, rfl, split⟩ | ⟨gap, rfl, split⟩
  · rcases separators_apart split with ⟨rfl, rfl⟩ | ⟨middle, rfl, rfl⟩
    · exact .inl ⟨(List.append_nil front).symm, rfl⟩
    · exact .inr (.inl ⟨middle, rfl, rfl⟩)
  · rcases separators_apart split with ⟨rfl, rfl⟩ | ⟨middle, rfl, rfl⟩
    · exact .inl ⟨List.append_nil low, rfl⟩
    · exact .inr (.inr ⟨middle, rfl, rfl⟩)

end joined

variable {a b : LaneId}

theorem toList_text (lane : LaneId) :
    lane.text.toList = lane.low.toList ++ '<' :: '-' :: '>' :: lane.high.toList := by
  simp [text]

theorem Overlaps.text_eq (overlaps : a.Overlaps b) : a.text = b.text := by
  obtain ⟨middle, high, low⟩ := overlaps
  simp only [text, high, low, String.append_assoc]

theorem Overlaps.ne (overlaps : a.Overlaps b) : a ≠ b := by
  rintro rfl
  obtain ⟨middle, high, _⟩ := overlaps
  have length := congrArg String.length high
  have separator : "<->".length = 3 := rfl
  simp only [String.length_append, separator] at length
  omega

theorem Overlaps.not_whole (overlaps : a.Overlaps b) : ¬Whole a.high ∧ ¬Whole b.low := by
  obtain ⟨middle, high, low⟩ := overlaps
  exact ⟨fun whole => whole _ _ high, fun whole => whole _ _ low⟩

theorem Whole.of_not_mem {endpoint : String} (none : '<' ∉ endpoint.toList) : Whole endpoint := by
  rintro front back rfl
  simp at none

theorem overlaps_of_toList {middle : List Char}
    (high : a.high.toList = middle ++ '<' :: '-' :: '>' :: b.high.toList)
    (low : b.low.toList = a.low.toList ++ '<' :: '-' :: '>' :: middle) : a.Overlaps b := by
  refine ⟨String.ofList middle, ?_, ?_⟩
  · apply String.toList_injective
    simp [high]
  · apply String.toList_injective
    simp [low]

theorem text_eq_iff : a.text = b.text ↔ a = b ∨ a.Overlaps b ∨ b.Overlaps a := by
  constructor
  · intro same
    have joined := congrArg String.toList same
    rw [toList_text, toList_text] at joined
    rcases joined_cases joined with ⟨low, high⟩ | ⟨middle, high, low⟩ | ⟨middle, high, low⟩
    · refine .inl ?_
      cases a
      cases b
      cases String.toList_injective low
      cases String.toList_injective high
      rfl
    · exact .inr (.inl (overlaps_of_toList high low))
    · exact .inr (.inr (overlaps_of_toList high low))
  · rintro (rfl | overlaps | overlaps)
    · rfl
    · exact overlaps.text_eq
    · exact overlaps.text_eq.symm

/-- Lanes with one text that are not the same overlap. -/
theorem overlap_iff : a.Overlaps b ∨ b.Overlaps a ↔ a.text = b.text ∧ a ≠ b := by
  rw [text_eq_iff]
  constructor
  · rintro (overlaps | overlaps)
    · exact ⟨.inr (.inl overlaps), overlaps.ne⟩
    · exact ⟨.inr (.inr overlaps), overlaps.ne.symm⟩
  · rintro ⟨same | overlap, different⟩
    · exact absurd same different
    · exact overlap

end TrafficReplay.LaneId
