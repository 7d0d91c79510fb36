import Mathlib.Data.List.Induction

namespace TrafficReplay

variable {α : Type} {items before after : List α} {item last : α}

/-- An item of a longer list is the last one, or stands where it stood before. -/
theorem concat_split (split : items ++ [last] = before ++ item :: after) :
    after = [] ∧ before = items ∧ item = last ∨
      ∃ front, after = front ++ [last] ∧ items = before ++ item :: front := by
  rcases List.eq_nil_or_concat after with rfl | ⟨front, final, rfl⟩
  · obtain ⟨rfl, single⟩ := List.append_inj' split rfl
    cases single
    exact .inl ⟨rfl, rfl, rfl⟩
  · rw [List.concat_eq_append] at split ⊢
    have same : items ++ [last] = (before ++ item :: front) ++ [final] := by
      rw [split, List.append_assoc, List.cons_append]
    obtain ⟨rfl, single⟩ := List.append_inj' same rfl
    cases single
    exact .inr ⟨front, rfl, rfl⟩

/-- The item is the last one that counts. Whether one counts may depend on those before it. -/
def Latest (counts : List α → α → Prop) (items : List α) (item : α) : Prop :=
  ∃ before after, items = before ++ item :: after ∧ counts before item ∧
    ∀ between later rest, after = between ++ later :: rest →
      ¬counts (before ++ item :: between) later

section Latest

variable {counts : List α → α → Prop}

theorem not_latest_nil : ¬Latest counts [] item := by
  rintro ⟨before, after, split, _⟩
  exact absurd split (by simp)

theorem latest_concat :
    Latest counts (items ++ [last]) item ↔
      counts items last ∧ item = last ∨ ¬counts items last ∧ Latest counts items item := by
  constructor
  · rintro ⟨before, after, split, counted, kept⟩
    rcases concat_split split with ⟨rfl, rfl, rfl⟩ | ⟨front, rfl, rfl⟩
    · exact .inl ⟨counted, rfl⟩
    · refine .inr ⟨kept front last [] rfl, before, front, rfl, counted, ?_⟩
      intro between later rest front_split
      apply kept between later (rest ++ [last])
      rw [front_split, List.append_assoc, List.cons_append]
  · rintro (⟨counted, rfl⟩ | ⟨uncounted, before, after, rfl, counted, kept⟩)
    · refine ⟨items, [], rfl, counted, ?_⟩
      intro between later rest split
      exact absurd split (by simp)
    · refine ⟨before, after ++ [last], by simp, counted, ?_⟩
      intro between later rest split
      rcases concat_split split with ⟨rfl, rfl, rfl⟩ | ⟨front, rfl, rfl⟩
      · exact uncounted
      · exact kept between later front rfl

theorem Latest.mem (latest : Latest counts items item) : item ∈ items := by
  obtain ⟨before, after, rfl, _⟩ := latest
  simp

end Latest

end TrafficReplay
