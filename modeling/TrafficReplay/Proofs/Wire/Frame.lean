import TrafficReplay.Proofs.Checked
import TrafficReplay.Wire.Frame

namespace TrafficReplay

namespace Header

theorem ofFields_append {front : List UInt8} (enough : headerLength ≤ front.length)
    (back : List UInt8) : ofFields (front ++ back) = ofFields front := by
  have four : ∀ start, start + 4 ≤ headerLength →
      ((front ++ back).drop start).take 4 = (front.drop start).take 4 := by
    intro start inside
    have before : start ≤ front.length := by omega
    have room : 4 ≤ (front.drop start).length := by
      rw [List.length_drop]
      omega
    rw [List.drop_append_of_le_length before, List.take_append_of_le_length room]
  have first := four 0 (by decide)
  have second := four 4 (by decide)
  have third := four 8 (by decide)
  have fourth := four 12 (by decide)
  simp only [List.drop_zero] at first
  simp only [ofFields, first, second, third, fourth]

theorem ofFields_bytes (header : Header) (canonical : OpCode.ofCode header.opCode.code = header.opCode) :
    ofFields header.bytes = header := by
  have field : ∀ (front back : List UInt8) (n : Int32) (start : Nat), front.length = start →
      ((front ++ (int32Bytes n ++ back)).drop start).take 4 = int32Bytes n := by
    intro front back n start before
    rw [List.drop_left' before, List.take_left' (length_int32Bytes n)]
  have split : header.bytes = int32Bytes header.length ++ (int32Bytes header.requestId ++
      (int32Bytes header.responseTo ++ (int32Bytes header.opCode.code ++ []))) := by
    simp [bytes]
  have first := field [] (int32Bytes header.requestId ++ (int32Bytes header.responseTo ++
    (int32Bytes header.opCode.code ++ []))) header.length 0 rfl
  have second := field (int32Bytes header.length) (int32Bytes header.responseTo ++
    (int32Bytes header.opCode.code ++ [])) header.requestId 4 (by simp)
  have third := field (int32Bytes header.length ++ int32Bytes header.requestId)
    (int32Bytes header.opCode.code ++ []) header.responseTo 8 (by simp)
  have fourth := field (int32Bytes header.length ++ int32Bytes header.requestId ++
    int32Bytes header.responseTo) [] header.opCode.code 12 (by simp)
  simp only [List.append_assoc, List.nil_append, List.drop_zero] at first second third fourth
  simp only [ofFields, split, first, second, third, fourth, int32OfBytes_int32Bytes, canonical]

theorem bytes_ofFields {bytes : List UInt8} (enough : headerLength ≤ bytes.length) :
    (ofFields bytes).bytes = bytes.take headerLength := by
  have four : ∀ start, start + 4 ≤ headerLength → ((bytes.drop start).take 4).length = 4 := by
    intro start inside
    rw [List.length_take, List.length_drop]
    omega
  have first := int32Bytes_int32OfBytes (four 0 (by decide))
  have second := int32Bytes_int32OfBytes (four 4 (by decide))
  have third := int32Bytes_int32OfBytes (four 8 (by decide))
  have fourth := int32Bytes_int32OfBytes (four 12 (by decide))
  simp only [List.drop_zero] at first
  simp only [Header.bytes, ofFields, OpCode.code_ofCode, first, second, third, fourth]
  have whole : bytes.take headerLength = bytes.take (4 + (4 + (4 + 4))) := rfl
  rw [whole, List.take_add, List.take_add, List.take_add, List.drop_drop, List.drop_drop]
  simp only [List.append_assoc]

theorem frameLength_ok_iff {header : Header} {length : Nat} :
    header.frameLength = .ok length ↔
      header.length.toInt = length ∧ headerLength ≤ length ∧ length ≤ frameLimit := by
  have clamp := header.length.toNat_toInt
  have sign : header.length < 0 ↔ header.length.toInt < 0 := Int32.lt_iff_toInt_lt
  unfold frameLength
  dsimp only
  split
  · rename_i negative
    have below := sign.mp negative
    constructor
    · exact nofun
    · omega
  · rename_i positive
    have above : ¬header.length.toInt < 0 := fun below => positive (sign.mpr below)
    split
    · constructor
      · exact nofun
      · omega
    · split
      · constructor
        · exact nofun
        · omega
      · constructor
        · intro same
          have value := Except.ok.inj same
          omega
        · intro fits
          have value : header.length.toNatClampNeg = length := by omega
          rw [value]

theorem frameLength_error_iff {header : Header} :
    (∃ fault, header.frameLength = .error fault) ↔
      header.length.toInt < headerLength ∨ (frameLimit : Int) < header.length.toInt := by
  cases declared : header.frameLength with
  | error fault =>
    have outside : ¬(headerLength ≤ header.length.toInt ∧ header.length.toInt ≤ frameLimit) := by
      intro inside
      have fits : header.frameLength = .ok header.length.toInt.toNat :=
        frameLength_ok_iff.mpr (by omega)
      rw [declared] at fits
      cases fits
    constructor
    · intro _
      omega
    · exact fun _ => ⟨fault, rfl⟩
  | ok length =>
    have fits := frameLength_ok_iff.mp declared
    constructor
    · rintro ⟨fault, refused⟩
      cases refused
    · omega

theorem parse_of_length {bytes : List UInt8} (enough : headerLength ≤ bytes.length) :
    parse bytes = (ofFields bytes).frameLength.map fun _ => ofFields bytes := by
  have long : ¬bytes.length < headerLength := by omega
  unfold parse
  simp only [long, if_false, Bind.bind, Except.bind, Pure.pure, Except.pure]
  cases (ofFields bytes).frameLength <;> rfl

theorem parse_ok_iff {bytes : List UInt8} {header : Header} :
    parse bytes = .ok header ↔ headerLength ≤ bytes.length ∧ header = ofFields bytes ∧
      headerLength ≤ header.length.toInt ∧ header.length.toInt ≤ frameLimit := by
  by_cases enough : headerLength ≤ bytes.length
  · rw [parse_of_length enough]
    constructor
    · intro read
      obtain ⟨length, declared, rfl⟩ := map_eq_ok.mp read
      have fits := frameLength_ok_iff.mp declared
      exact ⟨enough, rfl, by omega, by omega⟩
    · rintro ⟨_, rfl, lower, upper⟩
      have declared : (ofFields bytes).frameLength = .ok (ofFields bytes).length.toInt.toNat :=
        frameLength_ok_iff.mpr (by omega)
      rw [declared]
      rfl
  · have short : bytes.length < headerLength := by omega
    constructor
    · intro read
      simp [parse, short, Bind.bind, Except.bind, throw, throwThe, MonadExceptOf.throw] at read
    · exact fun held => absurd held.1 enough

theorem ofFields_bytes_append (header : Header) (rest : List UInt8) :
    ofFields (header.bytes ++ rest) =
      { header with opCode := OpCode.ofCode header.opCode.code } := by
  -- A code written is the one that its own reading writes, so the bytes are those of a read header.
  have written : header.bytes =
      { header with opCode := OpCode.ofCode header.opCode.code : Header }.bytes := by
    simp only [bytes, OpCode.code_ofCode]
  rw [ofFields_append (by simp), written]
  exact ofFields_bytes _ (by simp only [OpCode.code_ofCode])

end Header

namespace Frame

theorem length_bytes (frame : Frame) : frame.bytes.length = frame.length := by
  simp [bytes, length]

theorem declared_length (frame : Frame) :
    int32OfBytes (frame.bytes.take 4) = Int32.ofNat frame.length := by
  have front : frame.bytes.take 4 = int32Bytes frame.header.length := by
    rw [bytes, Header.bytes, List.append_assoc, List.append_assoc, List.append_assoc,
      List.take_left' (length_int32Bytes _)]
  rw [front, int32OfBytes_int32Bytes]
  rfl

theorem frameLength_header (frame : Frame) : frame.header.frameLength = .ok frame.length := by
  have fits := frame.body_le
  have lower : headerLength ≤ frame.length := Nat.le_add_right ..
  have small : frame.length < 2 ^ 31 := Nat.lt_of_le_of_lt fits (by decide)
  refine Header.frameLength_ok_iff.mpr ⟨?_, lower, fits⟩
  exact Int32.toInt_ofNat_of_lt small

theorem ofBytes_bytes {frame : Frame}
    (canonical : OpCode.ofCode frame.opCode.code = frame.opCode) :
    ofBytes frame.bytes = .ok frame := by
  have header : headerLength ≤ frame.header.bytes.length := by simp
  have enough : headerLength ≤ frame.bytes.length := by
    rw [length_bytes]
    exact Nat.le_add_right ..
  have fields : Header.ofFields frame.bytes = frame.header := by
    rw [bytes, Header.ofFields_append header]
    exact Header.ofFields_bytes frame.header canonical
  have body : frame.bytes.drop headerLength = frame.body := by
    rw [bytes, List.drop_left' (Header.length_bytes _)]
  unfold ofBytes
  rw [Header.parse_of_length enough, fields, frameLength_header]
  simp only [Except.map, Bind.bind, Except.bind, Pure.pure, Except.pure, frameLength_header,
    length_bytes, body, frame.body_le]
  simp only [ne_eq, not_true_eq_false, if_false, dite_true]
  rfl

theorem ofBytes_ok {bytes : List UInt8} {frame : Frame} (read : ofBytes bytes = .ok frame) :
    headerLength ≤ bytes.length ∧ (Header.ofFields bytes).frameLength = .ok bytes.length ∧
      frame.header = Header.ofFields bytes ∧ frame.body = bytes.drop headerLength := by
  obtain ⟨fields, parsed, read⟩ := bind_eq_ok.mp read
  obtain ⟨count, declared, read⟩ := bind_eq_ok.mp read
  obtain ⟨enough, rfl, _⟩ := Header.parse_ok_iff.mp parsed
  simp only [Bind.bind, Except.bind, Pure.pure, Except.pure] at read
  split at read
  · cases read
  · rename_i whole
    have held : count = bytes.length := by simpa using whole
    split at read
    · rename_i fits
      obtain ⟨value, _, small⟩ := Header.frameLength_ok_iff.mp declared
      have total : headerLength + (bytes.drop headerLength).length = count := by
        rw [List.length_drop]
        omega
      have short : count < 2 ^ 31 := Nat.lt_of_le_of_lt small (by decide)
      have same : Int32.ofNat (headerLength + (bytes.drop headerLength).length) =
          (Header.ofFields bytes).length := by
        apply Int32.toInt_inj.mp
        rw [total, value]
        exact Int32.toInt_ofNat_of_lt short
      cases read
      refine ⟨enough, by rw [declared, held], ?_, rfl⟩
      simp only [header, Frame.length, same]
    · cases read

theorem ofBytes_of_frameLength {bytes : List UInt8} (enough : headerLength ≤ bytes.length)
    (declared : (Header.ofFields bytes).frameLength = .ok bytes.length) :
    ∃ frame, ofBytes bytes = .ok frame := by
  obtain ⟨_, _, small⟩ := Header.frameLength_ok_iff.mp declared
  have fits : headerLength + (bytes.drop headerLength).length ≤ frameLimit := by
    rw [List.length_drop]
    omega
  unfold ofBytes
  simp only [Header.parse_of_length enough, declared, Except.map, Bind.bind, Except.bind, Pure.pure,
    Except.pure, ne_eq, not_true_eq_false, if_false, fits, dite_true]
  exact ⟨_, rfl⟩

/-- Bytes are read as a frame if they are its bytes, and the code in its header is one that is read. -/
theorem ofBytes_eq_ok_iff {bytes : List UInt8} {frame : Frame} :
    ofBytes bytes = .ok frame ↔
      frame.bytes = bytes ∧ OpCode.ofCode frame.opCode.code = frame.opCode := by
  constructor
  · intro read
    obtain ⟨enough, _, header, body⟩ := ofBytes_ok read
    have whole : frame.bytes = bytes := by
      rw [Frame.bytes, header, body, Header.bytes_ofFields enough, List.take_append_drop]
    have code : frame.opCode = (Header.ofFields bytes).opCode := congrArg Header.opCode header
    refine ⟨whole, ?_⟩
    rw [code]
    simp only [Header.ofFields, OpCode.code_ofCode]
  · rintro ⟨rfl, canonical⟩
    exact ofBytes_bytes canonical

theorem ofBytes_ok_iff {bytes : List UInt8} :
    (∃ frame, ofBytes bytes = .ok frame) ↔
      (headerLength ≤ bytes.length ∧ bytes.length ≤ frameLimit) ∧
        (int32OfBytes (bytes.take 4)).toInt = bytes.length := by
  constructor
  · rintro ⟨frame, read⟩
    obtain ⟨enough, declared, _⟩ := ofBytes_ok read
    obtain ⟨value, _, upper⟩ := Header.frameLength_ok_iff.mp declared
    exact ⟨⟨enough, upper⟩, value⟩
  · rintro ⟨⟨enough, upper⟩, value⟩
    exact ofBytes_of_frameLength enough (Header.frameLength_ok_iff.mpr ⟨value, enough, upper⟩)

/-- Which bytes are a frame and which a header: nothing is lost of a frame that is read, whatever its
    operation code, and a written header is read back, whatever follows it, if its length is one that
    a frame may have; every other length is refused. -/
theorem accepted_exactly (bytes : List UInt8) (header : Header) :
    ((∃ frame, ofBytes bytes = .ok frame) ↔
        (16 ≤ bytes.length ∧ bytes.length ≤ 48 * 1024 * 1024) ∧
          (int32OfBytes (bytes.take 4)).toInt = bytes.length) ∧
      (∀ frame, ofBytes bytes = .ok frame →
        frame.bytes = bytes ∧ frame.header.bytes = bytes.take 16) ∧
      (∀ rest, 16 ≤ header.length.toInt ∧ header.length.toInt ≤ 48 * 1024 * 1024 →
        OpCode.ofCode header.opCode.code = header.opCode →
        Header.parse (header.bytes ++ rest) = .ok header) ∧
      ∀ rest, ¬(16 ≤ header.length.toInt ∧ header.length.toInt ≤ 48 * 1024 * 1024) →
        ∃ fault, Header.parse (header.bytes ++ rest) = .error fault := by
  have held (rest : List UInt8) : headerLength ≤ (header.bytes ++ rest).length := by simp
  refine ⟨ofBytes_ok_iff, fun frame read => ?_, fun rest within canonical => ?_,
    fun rest outside => ?_⟩
  · obtain ⟨enough, _, fields, _⟩ := ofBytes_ok read
    exact ⟨(ofBytes_eq_ok_iff.mp read).1, by rw [fields]; exact Header.bytes_ofFields enough⟩
  · have fields := Header.ofFields_bytes_append header rest
    rw [canonical] at fields
    exact Header.parse_ok_iff.mpr ⟨held rest, fields.symm, within⟩
  · cases read : Header.parse (header.bytes ++ rest) with
    | error fault => exact ⟨fault, rfl⟩
    | ok other =>
      obtain ⟨_, fields, within⟩ := Header.parse_ok_iff.mp read
      rw [fields, Header.ofFields_bytes_append] at within
      exact absurd within outside

def strangeHeader : Header := ⟨17, 1, 0, .unknown 9999⟩

theorem strangeHeader_accepted :
    (∃ frame, ofBytes (strangeHeader.bytes ++ [7]) = .ok frame ∧
        frame.bytes = strangeHeader.bytes ++ [7] ∧ frame.header.bytes = strangeHeader.bytes) ∧
      Header.parse (strangeHeader.bytes ++ [7]) = .ok strangeHeader ∧
      ∃ fault, Header.parse { strangeHeader with length := -17 }.bytes = .error fault := by
  obtain ⟨frames, whole, read, _⟩ := accepted_exactly (strangeHeader.bytes ++ [7]) strangeHeader
  obtain ⟨_, _, _, refused⟩ := accepted_exactly [] { strangeHeader with length := -17 }
  obtain ⟨frame, accepted⟩ := frames.mpr (by decide +kernel)
  obtain ⟨bytes, header⟩ := whole frame accepted
  obtain ⟨fault, negative⟩ := refused [] (by decide +kernel)
  rw [List.append_nil] at negative
  exact ⟨⟨frame, accepted, bytes, header⟩, read [7] (by decide +kernel) (by decide +kernel),
    fault, negative⟩

theorem frameLength_of_append {bytes rest : List UInt8} {frame : Frame}
    (read : ofBytes frame.bytes = .ok frame) (split : bytes = frame.bytes ++ rest) :
    headerLength ≤ bytes.length ∧
      (Header.ofFields bytes).frameLength = .ok frame.bytes.length := by
  obtain ⟨enough, declared, _⟩ := ofBytes_ok read
  have fields := Header.ofFields_append enough rest
  have longer : headerLength ≤ bytes.length := by
    rw [split, List.length_append]
    omega
  exact ⟨longer, by rw [split, fields, declared]⟩

theorem bytes_ne_nil (frame : Frame) : frame.bytes ≠ [] := by
  intro none
  have length := frame.length_bytes
  have lower : headerLength ≤ frame.length := Nat.le_add_right ..
  rw [none, List.length_nil] at length
  have header : headerLength = 16 := rfl
  omega

theorem eq_of_append {frame other : Frame} {rest more : List UInt8}
    (read : ofBytes frame.bytes = .ok frame) (other_read : ofBytes other.bytes = .ok other)
    (same : frame.bytes ++ rest = other.bytes ++ more) : frame = other ∧ rest = more := by
  obtain ⟨_, declared⟩ := frameLength_of_append read (rfl : frame.bytes ++ rest = _)
  obtain ⟨_, other_declared⟩ := frameLength_of_append other_read same
  rw [declared] at other_declared
  have lengths : frame.bytes.length = other.bytes.length := Except.ok.inj other_declared
  obtain ⟨bytes, rests⟩ := List.append_inj same lengths
  have frames : frame = other := by
    rw [bytes, other_read] at read
    exact (Except.ok.inj read).symm
  exact ⟨frames, rests⟩

end Frame

end TrafficReplay
