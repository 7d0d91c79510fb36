import TrafficReplay.Text.Base64

namespace TrafficReplay.Base64

theorem digit_spec (n : Nat) :
    value? (digit n) = some (n % 64) ∧ digit n ≠ '=' ∧ digit n ≠ ',' := by
  have each : ∀ k, k < 64 → value? (alphabet.getD k 'A') = some k ∧
      alphabet.getD k 'A' ≠ '=' ∧ alphabet.getD k 'A' ≠ ',' := by decide +kernel
  exact each (n % 64) (Nat.mod_lt n (by decide))

@[simp] theorem value?_digit (n : Nat) : value? (digit n) = some (n % 64) := (digit_spec n).1

@[simp] theorem digit_ne_filler (n : Nat) : digit n ≠ '=' := (digit_spec n).2.1

@[simp] theorem digit_ne_comma (n : Nat) : digit n ≠ ',' := (digit_spec n).2.2

theorem ofNat_eq {n : Nat} {byte : UInt8} (same : n % 256 = byte.toNat) : UInt8.ofNat n = byte := by
  apply UInt8.toNat_inj.mp
  rw [UInt8.toNat_ofNat', same]

@[simp] theorem decode?_encode (bytes : List UInt8) : decode? (encode bytes) = some bytes := by
  fun_induction encode bytes with
  | case1 => rfl
  | case2 a n =>
    have bound := a.toNat_lt
    have whole : n / 64 % 64 * 64 + n % 64 = n := by omega
    have first : UInt8.ofNat (n / 16) = a := ofNat_eq (by omega)
    have filled : n % 16 = 0 := by omega
    simp [decode?, whole, first, filled]
  | case3 a b n =>
    have bound := a.toNat_lt
    have bound' := b.toNat_lt
    have whole : (n / 4096 % 64 * 64 + n / 64 % 64) * 64 + n % 64 = n := by omega
    have first : UInt8.ofNat (n / 1024) = a := ofNat_eq (by omega)
    have second : UInt8.ofNat (n / 4) = b := ofNat_eq (by omega)
    have filled : n % 4 = 0 := by omega
    simp [decode?, whole, first, second, filled]
  | case4 a b c rest n ih =>
    have bound := a.toNat_lt
    have bound' := b.toNat_lt
    have bound'' := c.toNat_lt
    have whole : ((n / 262144 % 64 * 64 + n / 4096 % 64) * 64 + n / 64 % 64) * 64 + n % 64 = n := by
      omega
    have first : UInt8.ofNat (n / 65536) = a := ofNat_eq (by omega)
    have second : UInt8.ofNat (n / 256) = b := ofNat_eq (by omega)
    have third : UInt8.ofNat n = c := ofNat_eq (by omega)
    simp [decode?, whole, first, second, third, ih, -UInt8.ofNat_add, -UInt8.ofNat_mul]

theorem comma_not_mem_encode (bytes : List UInt8) : ',' ∉ encode bytes := by
  fun_induction encode bytes with
  | case1 => exact List.not_mem_nil
  | case2 | case3 => simp [(digit_ne_comma _).symm]
  | case4 a b c rest n ih => simp [(digit_ne_comma _).symm, ih]

theorem length_encode (bytes : List UInt8) : (encode bytes).length = (bytes.length + 2) / 3 * 4 := by
  fun_induction encode bytes with
  | case1 => rfl
  | case2 | case3 => simp
  | case4 a b c rest n ih =>
    simp only [List.length_cons, ih]
    omega

end TrafficReplay.Base64
