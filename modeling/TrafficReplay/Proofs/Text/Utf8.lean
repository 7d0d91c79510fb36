import TrafficReplay.Text.Utf8

namespace TrafficReplay.Utf8

theorem toNat_byte {n : Nat} (small : n < 256) : (UInt8.ofNat n).toNat = n := by
  rw [UInt8.toNat_ofNat']
  exact Nat.mod_eq_of_lt small

theorem following_ofNat {n : Nat} (small : n < 256) : following (UInt8.ofNat n) =
    if n < 128 then some 0 else if n < 194 then none else if n < 224 then some 1
      else if n < 240 then some 2 else if n < 245 then some 3 else none := by
  simp only [following, UInt8.lt_iff_toNat_lt, toNat_byte small]
  rfl

theorem between_ofNat {n : Nat} {low high : UInt8} (small : n < 256) (above : low.toNat ≤ n)
    (below : n < high.toNat) : (low ≤ UInt8.ofNat n && UInt8.ofNat n < high) = true := by
  simp only [UInt8.le_iff_toNat_le, UInt8.lt_iff_toNat_lt, toNat_byte small, Bool.and_eq_true,
    decide_eq_true_eq]
  exact ⟨above, below⟩

theorem isContinuation_ofNat {n : Nat} (low : 128 ≤ n) (high : n < 192) :
    isContinuation (UInt8.ofNat n) = true := between_ofNat (by omega) low high

theorem isSecond_ofNat {lead n : Nat} (small : lead < 256) (low : 128 ≤ n) (high : n < 192)
    (long : lead = 224 → 160 ≤ n) (surrogate : lead = 237 → n < 160) (longer : lead = 240 → 144 ≤ n)
    (beyond : lead = 244 → n < 144) : isSecond (UInt8.ofNat lead) (UInt8.ofNat n) = true := by
  have byte : n < 256 := by omega
  simp only [isSecond, ← UInt8.toNat_inj, toNat_byte small]
  split
  · rename_i narrow
    exact between_ofNat byte (long narrow) high
  · split
    · rename_i narrow
      exact between_ofNat byte low (surrogate narrow)
    · split
      · rename_i narrow
        exact between_ofNat byte (longer narrow) high
      · split
        · rename_i narrow
          exact between_ofNat byte low (beyond narrow)
        · exact isContinuation_ofNat low high

theorem ofNat_of_toNat {c : Char} {n : Nat} (same : n = c.toNat) : Char.ofNat n = c := by
  rw [same, Char.ofNat_toNat]

theorem decodeChars_one {c : Char} (high : c.toNat ≤ 127) (start : Nat) (rest : List UInt8) :
    decodeChars start (UInt8.ofNat c.toNat :: rest) =
      (decodeChars (start + 1) rest).map (c :: ·) := by
  have small : c.toNat < 256 := by omega
  have lead : following (UInt8.ofNat c.toNat) = some 0 := by
    rw [following_ofNat small, if_pos (by omega)]
  have back : char1 (UInt8.ofNat c.toNat) = c := ofNat_of_toNat (toNat_byte small)
  rw [decodeChars.eq_def]
  simp only [lead, back]

theorem decodeChars_two {c : Char} (low : 127 < c.toNat) (high : c.toNat ≤ 2047) (start : Nat)
    (rest : List UInt8) :
    decodeChars start (UInt8.ofNat (c.toNat / 64 % 32 + 192) :: UInt8.ofNat (c.toNat % 64 + 128) ::
      rest) = (decodeChars (start + 2) rest).map (c :: ·) := by
  generalize number : c.toNat = n at low high
  have first : n / 64 % 32 + 192 < 256 := by omega
  have second : n % 64 + 128 < 256 := by omega
  have lead : following (UInt8.ofNat (n / 64 % 32 + 192)) = some 1 := by
    rw [following_ofNat first, if_neg (by omega), if_neg (by omega), if_pos (by omega)]
  have next : isSecond (UInt8.ofNat (n / 64 % 32 + 192)) (UInt8.ofNat (n % 64 + 128)) = true :=
    isSecond_ofNat first (by omega) (by omega) (by omega) (by omega) (by omega) (by omega)
  have back : char2 (UInt8.ofNat (n / 64 % 32 + 192)) (UInt8.ofNat (n % 64 + 128)) = c := by
    apply ofNat_of_toNat
    rw [toNat_byte first, toNat_byte second, number]
    omega
  rw [decodeChars.eq_def]
  simp only [lead, next, if_true, back]

theorem decodeChars_three {c : Char} (low : 2047 < c.toNat) (high : c.toNat ≤ 65535)
    (valid : c.toNat < 0xD800 ∨ 0xDFFF < c.toNat) (start : Nat) (rest : List UInt8) :
    decodeChars start (UInt8.ofNat (c.toNat / 4096 % 16 + 224) ::
      UInt8.ofNat (c.toNat / 64 % 64 + 128) :: UInt8.ofNat (c.toNat % 64 + 128) :: rest) =
      (decodeChars (start + 3) rest).map (c :: ·) := by
  generalize number : c.toNat = n at low high valid
  have first : n / 4096 % 16 + 224 < 256 := by omega
  have second : n / 64 % 64 + 128 < 256 := by omega
  have third : n % 64 + 128 < 256 := by omega
  have lead : following (UInt8.ofNat (n / 4096 % 16 + 224)) = some 2 := by
    rw [following_ofNat first, if_neg (by omega), if_neg (by omega), if_neg (by omega),
      if_pos (by omega)]
  have next : isSecond (UInt8.ofNat (n / 4096 % 16 + 224)) (UInt8.ofNat (n / 64 % 64 + 128)) =
      true :=
    isSecond_ofNat first (by omega) (by omega) (by omega) (by omega) (by omega) (by omega)
  have last : isContinuation (UInt8.ofNat (n % 64 + 128)) = true :=
    isContinuation_ofNat (by omega) (by omega)
  have back : char3 (UInt8.ofNat (n / 4096 % 16 + 224)) (UInt8.ofNat (n / 64 % 64 + 128))
      (UInt8.ofNat (n % 64 + 128)) = c := by
    apply ofNat_of_toNat
    rw [toNat_byte first, toNat_byte second, toNat_byte third, number]
    omega
  rw [decodeChars.eq_def]
  simp only [lead, next, last, if_true, back]

theorem decodeChars_four {c : Char} (low : 65535 < c.toNat) (high : c.toNat < 0x110000) (start : Nat)
    (rest : List UInt8) :
    decodeChars start (UInt8.ofNat (c.toNat / 262144 % 8 + 240) ::
      UInt8.ofNat (c.toNat / 4096 % 64 + 128) :: UInt8.ofNat (c.toNat / 64 % 64 + 128) ::
        UInt8.ofNat (c.toNat % 64 + 128) :: rest) =
      (decodeChars (start + 4) rest).map (c :: ·) := by
  generalize number : c.toNat = n at low high
  have first : n / 262144 % 8 + 240 < 256 := by omega
  have second : n / 4096 % 64 + 128 < 256 := by omega
  have third : n / 64 % 64 + 128 < 256 := by omega
  have fourth : n % 64 + 128 < 256 := by omega
  have lead : following (UInt8.ofNat (n / 262144 % 8 + 240)) = some 3 := by
    rw [following_ofNat first, if_neg (by omega), if_neg (by omega), if_neg (by omega),
      if_neg (by omega), if_pos (by omega)]
  have next : isSecond (UInt8.ofNat (n / 262144 % 8 + 240)) (UInt8.ofNat (n / 4096 % 64 + 128)) =
      true :=
    isSecond_ofNat first (by omega) (by omega) (by omega) (by omega) (by omega) (by omega)
  have later : isContinuation (UInt8.ofNat (n / 64 % 64 + 128)) = true :=
    isContinuation_ofNat (by omega) (by omega)
  have last : isContinuation (UInt8.ofNat (n % 64 + 128)) = true :=
    isContinuation_ofNat (by omega) (by omega)
  have back : char4 (UInt8.ofNat (n / 262144 % 8 + 240)) (UInt8.ofNat (n / 4096 % 64 + 128))
      (UInt8.ofNat (n / 64 % 64 + 128)) (UInt8.ofNat (n % 64 + 128)) = c := by
    apply ofNat_of_toNat
    rw [toNat_byte first, toNat_byte second, toNat_byte third, toNat_byte fourth, number]
    omega
  rw [decodeChars.eq_def]
  simp only [lead, next, later, last, if_true, back]

theorem decodeChars_utf8EncodeChar (c : Char) (start : Nat) (rest : List UInt8) :
    decodeChars start (String.utf8EncodeChar c ++ rest) =
      (decodeChars (start + (String.utf8EncodeChar c).length) rest).map (c :: ·) := by
  have valid : c.toNat < 0xD800 ∨ 0xDFFF < c.toNat ∧ c.toNat < 0x110000 := c.valid
  have same : c.val.toNat = c.toNat := rfl
  unfold String.utf8EncodeChar
  dsimp only
  rw [same]
  split
  · rename_i one
    exact decodeChars_one one start rest
  · rename_i beyond_one
    split
    · rename_i two
      exact decodeChars_two (by omega) two start rest
    · rename_i beyond_two
      split
      · rename_i three
        exact decodeChars_three (by omega) three (by omega) start rest
      · rename_i beyond_three
        exact decodeChars_four (by omega) (by omega) start rest

theorem decodeChars_encodeChars (chars : List Char) (start : Nat) :
    decodeChars start (encodeChars chars) = .ok chars := by
  induction chars generalizing start with
  | nil => simp [encodeChars, decodeChars]
  | cons c rest ih =>
    have bytes : encodeChars (c :: rest) = String.utf8EncodeChar c ++ encodeChars rest := by
      simp [encodeChars]
    rw [bytes, decodeChars_utf8EncodeChar, ih]
    rfl

@[simp] theorem decode_encode (text : String) : decode (encode text) = .ok text := by
  rw [decode, encode, decodeChars_encodeChars]
  simp [Except.map]

theorem decodeChars_ne_nil {start : Nat} {bytes : List UInt8} {chars : List Char}
    (read : decodeChars start bytes = .ok chars) (some_bytes : bytes ≠ []) : chars ≠ [] := by
  have mapped {c : Char} {result : Except Fault (List Char)}
      (read : result.map (c :: ·) = .ok chars) : chars ≠ [] := by
    cases result with
    | error => cases read
    | ok later =>
      cases read
      exact List.cons_ne_nil _ _
  rw [decodeChars.eq_def] at read
  split at read
  · exact absurd rfl some_bytes
  · repeat' split at read
    all_goals first | exact mapped read | cases read

theorem length_encodeChars_le (text : List Char) :
    (encodeChars text).length ≤ 4 * text.length := by
  induction text with
  | nil => exact Nat.le_refl 0
  | cons c rest ih =>
    have one : (String.utf8EncodeChar c).length ≤ 4 := by
      rw [String.length_utf8EncodeChar]
      exact c.utf8Size_le_four
    simp only [encodeChars, List.flatMap_cons, List.length_append, List.length_cons] at ih ⊢
    omega

theorem length_le_encodeChars (text : List Char) :
    text.length ≤ (encodeChars text).length := by
  induction text with
  | nil => exact Nat.le_refl 0
  | cons c rest ih =>
    have one : 0 < (String.utf8EncodeChar c).length := by
      rw [String.length_utf8EncodeChar]
      exact c.utf8Size_pos
    simp only [encodeChars, List.flatMap_cons, List.length_append, List.length_cons] at ih ⊢
    omega

theorem zero_mem_encode {text : String} (zero : 0 ∈ encode text) : '\x00' ∈ text.toList := by
  obtain ⟨c, member, inside⟩ := List.mem_flatMap.mp zero
  have positive {n : Nat} (small : n < 256) (some : 0 < n) : (0 : UInt8) ≠ UInt8.ofNat n := by
    intro same
    have equal := congrArg UInt8.toNat same
    rw [toNat_byte small] at equal
    exact absurd equal (Nat.ne_of_lt some)
  by_cases nul : c.toNat = 0
  · have same : c = '\x00' := by
      rw [← Char.ofNat_toNat c, nul]
    exact same ▸ member
  · have same : c.val.toNat = c.toNat := rfl
    unfold String.utf8EncodeChar at inside
    dsimp only at inside
    rw [same] at inside
    split at inside
    · rw [List.mem_singleton] at inside
      exact absurd inside (positive (by omega) (by omega))
    · split at inside
      · simp only [List.mem_cons, List.not_mem_nil, or_false] at inside
        rcases inside with zero | zero <;> exact absurd zero (positive (by omega) (by omega))
      · split at inside
        · simp only [List.mem_cons, List.not_mem_nil, or_false] at inside
          rcases inside with zero | zero | zero <;>
            exact absurd zero (positive (by omega) (by omega))
        · simp only [List.mem_cons, List.not_mem_nil, or_false] at inside
          rcases inside with zero | zero | zero | zero <;>
            exact absurd zero (positive (by omega) (by omega))

end TrafficReplay.Utf8
