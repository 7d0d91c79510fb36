import TrafficReplay.Proofs.Wire.CursorField

namespace TrafficReplay

theorem slice?_eq_some {bytes field : List UInt8} {offset size : Nat} :
    slice? bytes offset size = some field ↔
      offset + size ≤ bytes.length ∧ (bytes.drop offset).take size = field := by
  unfold slice?
  split
  · rename_i inside
    simp [inside]
  · rename_i outside
    simp [outside]

theorem drop_of_slice? {bytes field : List UInt8} {offset size : Nat}
    (found : slice? bytes offset size = some field) :
    bytes.drop offset = field ++ bytes.drop (offset + size) := by
  rw [← (slice?_eq_some.mp found).2, ← List.drop_drop, List.take_append_drop]

theorem length_of_slice? {bytes field : List UInt8} {offset size : Nat}
    (found : slice? bytes offset size = some field) : field.length = size := by
  obtain ⟨inside, rfl⟩ := slice?_eq_some.mp found
  rw [List.length_take, List.length_drop]
  omega

theorem slice?_of_drop {bytes field rest : List UInt8} {offset : Nat}
    (split : bytes.drop offset = field ++ rest) (nonempty : field ≠ []) :
    slice? bytes offset field.length = some field := by
  have held := congrArg List.length split
  have some := List.length_pos_iff.mpr nonempty
  rw [List.length_append, List.length_drop] at held
  exact slice?_eq_some.mpr ⟨by omega, by rw [split, List.take_left]⟩

theorem readInt32_eq_ok {bytes : List UInt8} {offset : Nat} {n : Int32} :
    readInt32 bytes offset = .ok n ↔ slice? bytes offset 4 = some (int32Bytes n) := by
  unfold readInt32
  constructor
  · intro read
    split at read
    · rename_i field found
      cases read
      rw [found, int32Bytes_int32OfBytes (length_of_slice? found)]
    · cases read
  · intro found
    rw [found]
    simp only [int32OfBytes_int32Bytes]

theorem readInt32_within {bytes : List UInt8} {offset : Nat} {n : Int32}
    (read : readInt32 bytes offset = .ok n) : offset + 4 ≤ bytes.length := by
  unfold readInt32 at read
  split at read
  · rename_i found
    exact (slice?_eq_some.mp found).1
  · cases read

theorem clamp_of_toInt {number : Int32} {size : Nat} (value : number.toInt = size) :
    ¬number < 0 ∧ number.toNatClampNeg = size := by
  constructor
  · rw [Int32.lt_iff_toInt_lt, value]
    exact Int.not_lt.mpr (Int.natCast_nonneg _)
  · rw [← Int32.toNat_toInt, value, Int.toNat_natCast]

theorem Document.length_of_decode? {bytes : List UInt8} {doc : Document}
    (decoded : Document.decode? bytes = some doc) :
    5 ≤ bytes.length ∧ int32At bytes = bytes.length := by
  simp only [Document.decode?, Option.bind_eq_bind] at decoded
  obtain ⟨content, inner, _⟩ := Option.bind_eq_some_iff.mp decoded
  simp only [content?, Option.bind_eq_bind] at inner
  obtain ⟨length, field, inner⟩ := Option.bind_eq_some_iff.mp inner
  split at inner
  · rename_i whole
    unfold lengthField? at field
    split at field
    · cases field
    · dsimp only at field
      split at field
      · cases field
      · rename_i least
        cases field
        omega
  · cases inner

theorem readInt32_document {bytes document : List UInt8} {offset : Nat} {doc : Document}
    (found : slice? bytes offset document.length = some document)
    (decoded : Document.decode? document = some doc) :
    ∃ number, readInt32 bytes offset = .ok number ∧ number.toInt = document.length := by
  obtain ⟨long, own⟩ := Document.length_of_decode? decoded
  obtain ⟨inside, content⟩ := slice?_eq_some.mp found
  have front : slice? bytes offset 4 = some (document.take 4) := by
    refine slice?_eq_some.mpr ⟨by omega, ?_⟩
    rw [← content, List.take_take, Nat.min_eq_left (by omega)]
  exact ⟨int32OfBytes (document.take 4), by simp only [readInt32, front], own⟩

theorem readDocument_eq_ok {bytes : List UInt8} {offset next : Nat} {doc : Document} :
    readDocument bytes offset = .ok (doc, next) ↔
      ∃ document, slice? bytes offset document.length = some document ∧
        Document.decode? document = some doc ∧ next = offset + document.length := by
  constructor
  · intro read
    obtain ⟨length, declared, read⟩ := bind_eq_ok.mp read
    simp only [bind, Except.bind] at read
    split at read
    · cases read
    · split at read
      · cases read
      · rename_i document found
        split at read
        · cases read
        · rename_i decoded
          cases read
          have size := length_of_slice? found
          exact ⟨document, size ▸ found, decoded, by rw [size]⟩
  · rintro ⟨document, found, decoded, rfl⟩
    obtain ⟨number, declared, value⟩ := readInt32_document found decoded
    obtain ⟨positive, clamp⟩ := clamp_of_toInt value
    simp only [readDocument, declared, bind, Except.bind, if_neg positive, clamp, found, decoded]
    rfl

theorem readDocument_of_drop {bytes document rest : List UInt8} {offset : Nat} {doc : Document}
    (held : bytes.drop offset = document ++ rest) (valid : Document.decode? document = some doc) :
    readDocument bytes offset = .ok (doc, offset + document.length) := by
  have long := (Document.length_of_decode? valid).1
  have nonempty : document ≠ [] := List.ne_nil_of_length_pos (by omega)
  exact readDocument_eq_ok.mpr ⟨document, slice?_of_drop held nonempty, valid, rfl⟩

structure Span where
  offset : Nat
  size : Nat
deriving DecidableEq, Repr

def Span.stop (span : Span) : Nat := span.offset + span.size

/-- Bytes that are as many, and the same ones in the spans. -/
structure AgreeOn (spans : List Span) (a b : List UInt8) : Prop where
  length : a.length = b.length
  same : ∀ span ∈ spans, ∀ p, span.offset ≤ p → p < span.stop → a[p]? = b[p]?

theorem AgreeOn.mono {spans others : List Span} {a b : List UInt8} (agree : AgreeOn spans a b)
    (fewer : ∀ span ∈ others, span ∈ spans) : AgreeOn others a b :=
  ⟨agree.length, fun span member => agree.same span (fewer span member)⟩

def int32Reads (bytes : List UInt8) (offset : Nat) : List Span :=
  if offset + 4 ≤ bytes.length then [⟨offset, 4⟩] else []

def documentReads (bytes : List UInt8) (offset : Nat) : List Span :=
  int32Reads bytes offset ++
    match readInt32 bytes offset with
    | .error _ => []
    | .ok length =>
      if offset + length.toNatClampNeg ≤ bytes.length then [⟨offset, length.toNatClampNeg⟩] else []

/-- A span that begins no earlier than an offset and ends with the bytes at the latest. -/
def Span.Within (span : Span) (offset : Nat) (bytes : List UInt8) : Prop :=
  offset ≤ span.offset ∧ span.stop ≤ bytes.length

theorem int32Reads_within {bytes : List UInt8} {offset : Nat} :
    ∀ span ∈ int32Reads bytes offset, span.Within offset bytes := by
  intro span member
  unfold int32Reads at member
  split at member
  · rename_i inside
    rw [List.mem_singleton.mp member]
    exact ⟨Nat.le_refl _, inside⟩
  · cases member

theorem documentReads_within {bytes : List UInt8} {offset : Nat} :
    ∀ span ∈ documentReads bytes offset, span.Within offset bytes := by
  intro span member
  rcases List.mem_append.mp member with member | member
  · exact int32Reads_within span member
  · split at member
    · cases member
    · split at member
      · rename_i inside
        rw [List.mem_singleton.mp member]
        exact ⟨Nat.le_refl _, inside⟩
      · cases member

theorem readInt32_of_agree {a b : List UInt8} {offset : Nat}
    (agree : AgreeOn (int32Reads a offset) a b) : readInt32 b offset = readInt32 a offset := by
  by_cases inside : offset + 4 ≤ a.length
  · refine (readInt32_congr agree.length fun p above below => ?_).symm
    exact agree.same ⟨offset, 4⟩ (by simp [int32Reads, inside]) p above below
  · have outside : ¬offset + 4 ≤ b.length := agree.length ▸ inside
    simp only [readInt32, slice?, if_neg inside, if_neg outside]

theorem readDocument_of_agree {a b : List UInt8} {offset : Nat}
    (agree : AgreeOn (documentReads a offset) a b) :
    readDocument b offset = readDocument a offset := by
  have number : readInt32 b offset = readInt32 a offset :=
    readInt32_of_agree (agree.mono fun _ member => List.mem_append_left _ member)
  unfold readDocument
  rw [number]
  cases declared : readInt32 a offset with
  | error fault => rfl
  | ok length =>
    have content : slice? b offset length.toNatClampNeg = slice? a offset length.toNatClampNeg := by
      by_cases inside : offset + length.toNatClampNeg ≤ a.length
      · refine (slice?_congr agree.length fun p above below => ?_).symm
        refine agree.same ⟨offset, length.toNatClampNeg⟩ ?_ p above below
        simp [documentReads, declared, inside]
      · have outside : ¬offset + length.toNatClampNeg ≤ b.length := agree.length ▸ inside
        simp only [slice?, if_neg inside, if_neg outside]
    simp only [bind, Except.bind, content]

theorem documentReads_of_read {bytes : List UInt8} {offset next : Nat} {doc : Document}
    (read : readDocument bytes offset = .ok (doc, next)) :
    (∀ span ∈ documentReads bytes offset, span.stop ≤ next) ∧
      ∃ span ∈ documentReads bytes offset, span.stop = next := by
  obtain ⟨document, found, decoded, rfl⟩ := readDocument_eq_ok.mp read
  obtain ⟨number, declared, value⟩ := readInt32_document found decoded
  have long := (Document.length_of_decode? decoded).1
  have inside := (slice?_eq_some.mp found).1
  have clamp := (clamp_of_toInt value).2
  have reads : documentReads bytes offset = [⟨offset, 4⟩, ⟨offset, document.length⟩] := by
    simp [documentReads, int32Reads, readInt32_within declared, declared, clamp, inside]
  rw [reads]
  constructor
  · intro span member
    simp only [List.mem_cons, List.not_mem_nil, or_false] at member
    rcases member with rfl | rfl <;> simp only [Span.stop] <;> omega
  · exact ⟨⟨offset, document.length⟩, by simp, rfl⟩

end TrafficReplay
