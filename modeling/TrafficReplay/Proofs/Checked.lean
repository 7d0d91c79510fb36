import Mathlib.Data.List.Forall2

namespace TrafficReplay

variable {ε ε' α β : Type} {made : Except ε α}

theorem bind_eq_ok {next : α → Except ε β} {result : β} :
    made.bind next = .ok result ↔ ∃ value, made = .ok value ∧ next value = .ok result := by
  cases made with
  | error fault => simp [Except.bind]
  | ok value => simp [Except.bind]

theorem map_eq_ok {change : α → β} {result : β} :
    made.map change = .ok result ↔ ∃ value, made = .ok value ∧ change value = result := by
  cases made with
  | error fault => simp [Except.map]
  | ok value => simp [Except.map]

theorem mapError_eq_ok {change : ε → ε'} {value : α} :
    made.mapError change = .ok value ↔ made = .ok value := by
  cases made with
  | error fault => simp [Except.mapError]
  | ok found => simp [Except.mapError]

theorem mapError_bind {change : ε → ε'} {next : α → Except ε β} :
    (made.bind next).mapError change =
      (made.mapError change).bind fun value => (next value).mapError change := by
  cases made <;> rfl

theorem mapM_eq_ok {f : α → Except ε β} {xs : List α} {ys : List β} :
    xs.mapM f = .ok ys ↔ List.Forall₂ (fun x y => f x = .ok y) xs ys := by
  induction xs generalizing ys with
  | nil =>
    constructor
    · intro read
      cases read
      exact .nil
    · intro each
      cases each
      rfl
  | cons x xs ih =>
    rw [List.mapM_cons]
    constructor
    · intro read
      obtain ⟨y, first, read⟩ := bind_eq_ok.mp read
      obtain ⟨zs, rest, whole⟩ := bind_eq_ok.mp read
      cases whole
      exact .cons first (ih.mp rest)
    · intro each
      cases each with
      | cons first rest =>
        rw [first, ih.mpr rest]
        rfl

theorem mapM_ok_length {f : α → Except ε β} {xs : List α} {ys : List β}
    (read : xs.mapM f = .ok ys) : xs.length = ys.length :=
  (mapM_eq_ok.mp read).length_eq

end TrafficReplay
