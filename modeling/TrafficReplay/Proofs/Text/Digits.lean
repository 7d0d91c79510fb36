namespace TrafficReplay

theorem digits_plain {c : Char} (sign : c.isDigit = false) (n : Nat) : c ∉ Nat.toDigits 10 n := by
  intro member
  rw [Nat.isDigit_of_mem_toDigits (by decide) (by decide) member] at sign
  cases sign

theorem head?_toDigits {n : Nat} (positive : 0 < n) :
    ∃ c, (Nat.toDigits 10 n).head? = some c ∧ c ≠ '0' := by
  induction n using Nat.strongRecOn with
  | ind n ih =>
    rcases Nat.lt_or_ge n 10 with small | large
    · rw [Nat.toDigits_of_lt_base small]
      exact ⟨n.digitChar, rfl, mt Nat.digitChar_eq_zero.mp (Nat.ne_of_gt positive)⟩
    · obtain ⟨c, first, nonzero⟩ := ih (n / 10) (by omega) (by omega)
      rw [Nat.toDigits_of_base_le (by decide) large, List.head?_append, first]
      exact ⟨c, rfl, nonzero⟩

end TrafficReplay
