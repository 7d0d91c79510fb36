import TrafficReplay.Proofs.Text.Utf8
import TrafficReplay.Text.Percent

namespace TrafficReplay.Percent

theorem escape_spec (byte : UInt8) :
    hexValue? (hexDigit (byte / 16)) = some (byte / 16) ∧
      hexValue? (hexDigit (byte % 16)) = some (byte % 16) ∧ 16 * (byte / 16) + byte % 16 = byte ∧
      isPlain (hexDigit (byte / 16)) = true ∧ isPlain (hexDigit (byte % 16)) = true := by
  have each : ∀ k, k < 256 → hexValue? (hexDigit (UInt8.ofNat k / 16)) = some (UInt8.ofNat k / 16) ∧
      hexValue? (hexDigit (UInt8.ofNat k % 16)) = some (UInt8.ofNat k % 16) ∧
      16 * (UInt8.ofNat k / 16) + UInt8.ofNat k % 16 = UInt8.ofNat k ∧
      isPlain (hexDigit (UInt8.ofNat k / 16)) = true ∧
      isPlain (hexDigit (UInt8.ofNat k % 16)) = true := by decide +kernel
  have this_one := each byte.toNat byte.toNat_lt
  rwa [UInt8.ofNat_toNat] at this_one

theorem decodeBytes_cons {byte : UInt8} (plain : byte ≠ 0x25) (rest : List UInt8) :
    decodeBytes (byte :: rest) = byte :: decodeBytes rest := by
  match rest with
  | [] => rfl
  | [_] => rfl
  | _ :: _ :: _ => rw [decodeBytes, if_neg plain]

theorem decodeBytes_encodeByte (byte : UInt8) (rest : List UInt8) :
    decodeBytes (encodeByte byte ++ rest) = byte :: decodeBytes rest := by
  obtain ⟨high, low, whole, _⟩ := escape_spec byte
  unfold encodeByte
  split
  · rename_i plain
    have other : byte ≠ 0x25 := by
      rintro rfl
      cases plain
    exact decodeBytes_cons other rest
  · simp only [List.cons_append, List.nil_append, decodeBytes, if_true, high, low, whole]

theorem decodeBytes_flatMap (bytes : List UInt8) : decodeBytes (bytes.flatMap encodeByte) = bytes := by
  induction bytes with
  | nil => rfl
  | cons byte bytes ih => rw [List.flatMap_cons, decodeBytes_encodeByte, ih]

def IsCode (code : UInt8) : Prop := isPlain code = true ∨ code = 0x25

theorem isCode_of_mem {byte code : UInt8} (member : code ∈ encodeByte byte) : IsCode code := by
  obtain ⟨_, _, _, high, low⟩ := escape_spec byte
  unfold encodeByte at member
  split at member
  · rename_i plain
    exact .inl (List.mem_singleton.mp member ▸ plain)
  · simp only [List.mem_cons, List.not_mem_nil, or_false] at member
    rcases member with rfl | rfl | rfl
    · exact .inr rfl
    · exact .inl high
    · exact .inl low

theorem IsCode.spec {code : UInt8} (written : IsCode code) :
    code < 0x80 ∧ Char.ofNat code.toNat ∉ ['/', '?', '@', ':', '&'] := by
  have each : ∀ k, k < 256 → isPlain (UInt8.ofNat k) = true ∨ UInt8.ofNat k = 0x25 →
      UInt8.ofNat k < 0x80 ∧ Char.ofNat (UInt8.ofNat k).toNat ∉ ['/', '?', '@', ':', '&'] := by
    decide +kernel
  have this_one := each code.toNat code.toNat_lt
  rw [UInt8.ofNat_toNat] at this_one
  exact this_one written

theorem encodeChars_codes {codes : List UInt8} (written : ∀ code ∈ codes, IsCode code) :
    Utf8.encodeChars (codes.map fun code => Char.ofNat code.toNat) = codes := by
  induction codes with
  | nil => rfl
  | cons code codes ih =>
    obtain ⟨first, others⟩ := List.forall_mem_cons.mp written
    have low : code.toNat < 128 := UInt8.lt_iff_toNat_lt.mp first.spec.1
    have valid : code.toNat.isValidChar := .inl (by omega)
    have number : (Char.ofNat code.toNat).val.toNat = code.toNat := by
      rw [Char.ofNat, dif_pos valid]
      rfl
    have single : String.utf8EncodeChar (Char.ofNat code.toNat) = [code] := by
      unfold String.utf8EncodeChar
      rw [number]
      simp [show code.toNat ≤ 127 by omega]
    unfold Utf8.encodeChars at ih ⊢
    rw [List.map_cons, List.flatMap_cons, ih others, single]
    rfl

theorem encode_codes (text : String) : ∀ code ∈ (Utf8.encode text).flatMap encodeByte, IsCode code := by
  intro code member
  obtain ⟨byte, _, inside⟩ := List.mem_flatMap.mp member
  exact isCode_of_mem inside

@[simp] theorem decode_encode (text : String) : decode (encode text) = .ok text := by
  rw [decode, encode, Utf8.encode, String.toList_ofList, encodeChars_codes (encode_codes text),
    decodeBytes_flatMap, Utf8.decode_encode]

theorem not_mem_encode {c : Char} (reserved : c ∈ ['/', '?', '@', ':', '&']) (text : String) :
    c ∉ (encode text).toList := by
  intro member
  rw [encode, String.toList_ofList] at member
  obtain ⟨code, inside, rfl⟩ := List.mem_map.mp member
  exact (encode_codes text code inside).spec.2 reserved

theorem decodeBytes_ne_nil {bytes : List UInt8} (some_bytes : bytes ≠ []) :
    decodeBytes bytes ≠ [] := by
  match bytes with
  | [] => exact absurd rfl some_bytes
  | [_] | [_, _] => exact List.cons_ne_nil _ _
  | _ :: _ :: _ :: _ =>
    rw [decodeBytes]
    split
    · split <;> exact List.cons_ne_nil _ _
    · exact List.cons_ne_nil _ _

theorem decode_ne_empty {text value : String} (some_text : text ≠ "")
    (read : decode text = .ok value) : value ≠ "" := by
  have some_chars : text.toList ≠ [] := mt String.toList_eq_nil_iff.mp some_text
  have some_bytes : Utf8.encode text ≠ [] := by
    have longer := Utf8.length_le_encodeChars text.toList
    have positive := List.length_pos_iff.mpr some_chars
    exact List.length_pos_iff.mp (Nat.lt_of_lt_of_le positive longer)
  rw [decode, Utf8.decode] at read
  cases chars : Utf8.decodeChars 0 (decodeBytes (Utf8.encode text)) with
  | error fault =>
    rw [chars] at read
    cases read
  | ok found =>
    rw [chars] at read
    cases read
    have some_found := Utf8.decodeChars_ne_nil chars (decodeBytes_ne_nil some_bytes)
    intro empty
    rw [← String.toList_eq_nil_iff, String.toList_ofList] at empty
    exact some_found empty

/-- A way to write texts so that they are read back and hold no separator of a connection string. -/
structure Encoder where
  encode : String → String
  decodes : ∀ text, decode (encode text) = .ok text
  plain : ∀ text, ∀ c ∈ ['/', '?', '@', ':', '&'], c ∉ (encode text).toList

def Encoder.strict : Encoder where
  encode := Percent.encode
  decodes := decode_encode
  plain text _ reserved := not_mem_encode reserved text

theorem Encoder.encode_eq_empty (encoder : Encoder) {text : String} :
    encoder.encode text = "" ↔ text = "" := by
  constructor
  · intro empty
    have same := encoder.decodes text
    rw [empty] at same
    exact (Except.ok.inj same).symm
  · rintro rfl
    exact Decidable.byContradiction fun some_code =>
      decode_ne_empty some_code (encoder.decodes "") rfl

end TrafficReplay.Percent
