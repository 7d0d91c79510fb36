import TrafficReplay.Proofs.Wire.CursorField

namespace TrafficReplay

theorem slice?_append (front back : List UInt8) {field : List UInt8} {offset size : Nat}
    (start : front.length = offset) (count : field.length = size) :
    slice? (front ++ (field ++ back)) offset size = some field := by
  subst start count
  simp [slice?]

theorem readInt32_append (front back : List UInt8) (n : Int32) {offset : Nat}
    (start : front.length = offset) :
    readInt32 (front ++ (int32Bytes n ++ back)) offset = .ok n := by
  simp only [readInt32, slice?_append front back start (length_int32Bytes n),
    int32OfBytes_int32Bytes]

theorem readInt64_append (front back : List UInt8) (n : Int64) {offset : Nat}
    (start : front.length = offset) :
    readInt64 (front ++ (int64Bytes n ++ back)) offset = .ok n := by
  simp only [readInt64, slice?_append front back start (length_int64Bytes n),
    int64OfBytes_int64Bytes]

namespace Frame

theorem ofParts_ok {opCode : OpCode} {requestId responseTo : Int32} {parts : List Part}
    {frame : Frame} (made : ofParts opCode requestId responseTo parts = .ok frame) :
    encodeParts? parts = some frame.body ∧ frame.opCode = opCode ∧
      frame.requestId = requestId ∧ frame.responseTo = responseTo := by
  unfold ofParts at made
  split at made
  · cases made
  · rename_i body encoded
    split at made
    · cases made
    · split at made
      · cases made
        exact ⟨encoded, rfl, rfl, rfl⟩
      · cases made

theorem encodeParts?_append {first second : List Part} {body : List UInt8}
    (encoded : encodeParts? (first ++ second) = some body) :
    ∃ front back, encodeParts? first = some front ∧ encodeParts? second = some back ∧
      body = front ++ back := by
  induction first generalizing body with
  | nil => exact ⟨[], body, rfl, encoded, rfl⟩
  | cons part rest ih =>
    simp only [List.cons_append, encodeParts?, bind, Option.bind] at encoded ⊢
    cases head : part.encode? with
    | none => simp [head] at encoded
    | some bytes =>
      cases tail : encodeParts? (rest ++ second) with
      | none => simp [head, tail] at encoded
      | some more =>
        obtain ⟨front, back, first_ok, second_ok, rfl⟩ := ih tail
        simp only [head, tail, pure, Option.some.injEq] at encoded
        subst encoded
        exact ⟨bytes ++ front, back, by simp [first_ok, pure], second_ok,
          (List.append_assoc ..).symm⟩

theorem canonical_of_replySummary {frame : Frame} {summary : ReplySummary}
    (readable : frame.replySummary = .ok summary) :
    OpCode.ofCode frame.opCode.code = frame.opCode := by
  unfold replySummary at readable
  split at readable
  case h_4 => cases readable
  all_goals
    rename_i kind
    rw [kind]
    rfl

theorem reply_summary {requestId responseTo flags start : Int32} {cursor : Int64}
    {docs : List Document} {frame : Frame}
    (made : reply requestId responseTo flags cursor start docs = .ok frame) :
    frame.replySummary = .ok ⟨cursor, Int32.ofNat docs.length,
      flags &&& (cursorNotFoundFlag ||| queryFailureFlag) ≠ 0⟩ := by
  obtain ⟨encoded, code, _, _⟩ := ofParts_ok made
  have parts : encodeParts? ([.int32 flags, .int64 cursor, .int32 start,
      .int32 (Int32.ofNat docs.length)] ++ docs.map .document) = some frame.body := encoded
  obtain ⟨front, back, head, _, body⟩ := encodeParts?_append parts
  cases head
  have flags_read : readInt32 frame.body 0 = .ok flags := by
    rw [body]
    exact readInt32_append [] _ flags rfl
  have cursor_read : readInt64 frame.body 4 = .ok cursor := by
    rw [body, List.append_assoc]
    exact readInt64_append _ _ cursor (length_int32Bytes flags)
  have number_read : readInt32 frame.body 16 = .ok (Int32.ofNat docs.length) := by
    have front : (int32Bytes flags ++ (int64Bytes cursor ++ int32Bytes start)).length = 16 := by simp
    have whole := readInt32_append _ back (Int32.ofNat docs.length) front
    rw [body]
    simpa [List.append_assoc] using whole
  simp only [replySummary, code, flags_read, cursor_read, number_read, bind, Except.bind, pure,
    Except.pure]

structure SameButCursors (a b : Frame) : Prop where
  requestId : b.requestId = a.requestId
  responseTo : b.responseTo = a.responseTo
  opCode : b.opCode = a.opCode
  length : a.body.length = b.body.length
  body : ∃ fields, a.CursorFieldsAt fields ∧
    ∀ p, (∀ field ∈ fields, p < field ∨ field + 8 ≤ p) → a.body[p]? = b.body[p]?

namespace SameButCursors

variable {a b c : Frame}

theorem of_withCursorIds {ids : List Int64} (made : a.withCursorIds ids = .ok b) :
    a.SameButCursors b := by
  obtain ⟨fields, placed, _, rfl⟩ := withCursorIds_eq_ok.mp made
  exact ⟨rfl, rfl, rfl, (length_overwriteIds ..).symm, fields, placed, fun p outside =>
    (getElem?_overwriteIds outside).symm⟩

theorem fields (same : a.SameButCursors b) : ∃ fields, a.CursorFieldsAt fields ∧
    b.CursorFieldsAt fields ∧
    ∀ p, (∀ field ∈ fields, p < field ∨ field + 8 ≤ p) → a.body[p]? = b.body[p]? := by
  obtain ⟨fields, placed, outside⟩ := same.body
  exact ⟨fields, placed, placed.transfer same.opCode same.length outside, outside⟩

theorem trans (first : a.SameButCursors b) (second : b.SameButCursors c) :
    a.SameButCursors c := by
  obtain ⟨fields, placed, there, outside⟩ := first.fields
  obtain ⟨others, again, beyond⟩ := second.body
  have equal : fields = others := by
    have read := (cursorFields_of_at there).symm.trans (cursorFields_of_at again)
    cases read
    rfl
  subst equal
  exact ⟨second.requestId.trans first.requestId, second.responseTo.trans first.responseTo,
    second.opCode.trans first.opCode, first.length.trans second.length, fields, placed,
    fun p away => (outside p away).trans (beyond p away)⟩

theorem eq (same : a.SameButCursors b) (code : a.opCode ≠ .getMore ∧ a.opCode ≠ .killCursors ∧
    a.opCode ≠ .reply) : b = a := by
  obtain ⟨fields, placed, outside⟩ := same.body
  cases placed with
  | more at_code | killed at_code | answered at_code => exact absurd at_code (by simp [code])
  | absent =>
    have body : b.body = a.body := List.ext_getElem? fun p => (outside p nofun).symm
    obtain ⟨requestId, responseTo, opCode, held, fits⟩ := b
    have requestId := same.requestId
    have responseTo := same.responseTo
    have opCode := same.opCode
    dsimp only at requestId responseTo opCode body
    subst requestId responseTo opCode body
    rfl

end SameButCursors

def renamed (rho : Int64 → Int64) (frame : Frame) : Except FrameFault Frame := do
  let ids ← frame.cursorIds
  frame.withCursorIds (ids.map rho)

theorem renamed_ok {rho : Int64 → Int64} {frame other : Frame}
    (made : frame.renamed rho = .ok other) :
    ∃ ids, frame.cursorIds = .ok ids ∧ frame.withCursorIds (ids.map rho) = .ok other :=
  bind_eq_ok.mp made

theorem cursorIds_reply {frame : Frame} {ids : List Int64} (code : frame.opCode = .reply)
    (read : frame.cursorIds = .ok ids) : ∃ id, ids = [id] ∧ readInt64 frame.body 4 = .ok id := by
  obtain ⟨fields, placed, _⟩ := cursorFieldsAt_of_cursorIds read
  cases placed with
  | more at_code | killed at_code => exact absurd (code.symm.trans at_code) nofun
  | absent others => exact absurd code others.2.2
  | answered _ inside =>
    have room : 4 + 8 ≤ frame.body.length := by omega
    obtain ⟨id, found⟩ := readInt64_ok room
    simp only [cursorIds, cursorFields_of_at (.answered code inside), List.mapM_cons,
      List.mapM_nil, found, bind, Except.bind, pure, Except.pure, Except.ok.injEq] at read
    exact ⟨id, read.symm, found⟩

theorem replySummary_renamed {rho : Int64 → Int64} {frame other : Frame} {summary : ReplySummary}
    (read : frame.replySummary = .ok summary) (made : frame.renamed rho = .ok other)
    (zero : rho 0 = 0) (holds : frame.opCode = .reply ∨ summary.cursorId = 0) :
    other.replySummary = .ok { summary with cursorId := rho summary.cursorId } := by
  obtain ⟨ids, found, made⟩ := renamed_ok made
  have same := SameButCursors.of_withCursorIds made
  by_cases code : frame.opCode = .reply
  · obtain ⟨id, rfl, cursor⟩ := cursorIds_reply code found
    obtain ⟨renamed, single, renamed_cursor⟩ :=
      cursorIds_reply (same.opCode.trans code) (cursorIds_withCursorIds made)
    cases single
    obtain ⟨fields, placed, _, outside⟩ := same.fields
    cases placed with
    | more at_code | killed at_code => exact absurd (code.symm.trans at_code) nofun
    | absent others => exact absurd code others.2.2
    | answered =>
      have flags : readInt32 other.body 0 = readInt32 frame.body 0 :=
        (readInt32_congr same.length fun p _ below => outside p (by simp; omega)).symm
      have number : readInt32 other.body 16 = readInt32 frame.body 16 :=
        (readInt32_congr same.length fun p above _ => outside p (by simp; omega)).symm
      simp only [replySummary, code] at read
      obtain ⟨held, flags_read, read⟩ := bind_eq_ok.mp read
      obtain ⟨own, own_read, read⟩ := bind_eq_ok.mp read
      obtain ⟨count, number_read, read⟩ := bind_eq_ok.mp read
      cases own_read.symm.trans cursor
      cases read
      simp only [replySummary, same.opCode.trans code, flags.trans flags_read, renamed_cursor,
        number.trans number_read, bind, Except.bind, pure, Except.pure]
  · have response : frame.opCode ≠ .getMore ∧ frame.opCode ≠ .killCursors ∧
        frame.opCode ≠ .reply := by
      refine ⟨fun other => ?_, fun other => ?_, code⟩ <;> simp [replySummary, other] at read
    rw [same.eq response, holds.resolve_left code, zero, read, ← holds.resolve_left code]

end Frame

end TrafficReplay
