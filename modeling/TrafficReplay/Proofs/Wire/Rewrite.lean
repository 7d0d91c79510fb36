import TrafficReplay.Proofs.Wire.Field
import TrafficReplay.Proofs.Wire.Frame
import TrafficReplay.Proofs.Wire.Reply
import TrafficReplay.Wire.Request

namespace TrafficReplay

theorem readInt64_eq_ok {bytes : List UInt8} {offset : Nat} {n : Int64} :
    readInt64 bytes offset = .ok n ↔ slice? bytes offset 8 = some (int64Bytes n) := by
  unfold readInt64
  constructor
  · intro read
    split at read
    · rename_i field found
      cases read
      rw [found, int64Bytes_int64OfBytes (length_of_slice? found)]
    · cases read
  · intro found
    rw [found]
    simp only [int64OfBytes_int64Bytes]

theorem getElem?_of_slice? {bytes field : List UInt8} {offset size p : Nat}
    (found : slice? bytes offset size = some field) (above : offset ≤ p) (below : p < offset + size) :
    bytes[p]? = field[p - offset]? := by
  obtain ⟨_, rfl⟩ := slice?_eq_some.mp found
  have within : p - offset < size := by omega
  rw [List.getElem?_take, if_pos within, List.getElem?_drop]
  congr 1
  omega

theorem slice?_append_right (front back : List UInt8) (offset size : Nat) :
    slice? (front ++ back) (front.length + offset) size = slice? back offset size := by
  simp only [slice?, List.length_append, Nat.add_assoc, Nat.add_le_add_iff_left,
    List.drop_length_add_append]

namespace Frame

theorem FieldsFit.reads {body : List UInt8} {fields : List Nat} (fit : FieldsFit body fields) :
    ∃ ids, fields.mapM (readInt64 body) = .ok ids := by
  induction fields with
  | nil => exact ⟨[], rfl⟩
  | cons field fields ih =>
    obtain ⟨id, first⟩ := readInt64_ok (fit.inside field List.mem_cons_self)
    obtain ⟨ids, rest⟩ := ih ⟨(List.pairwise_cons.mp fit.apart).2,
      fun other member => fit.inside other (List.mem_cons_of_mem _ member)⟩
    exact ⟨id :: ids, by rw [List.mapM_cons, first, rest]; rfl⟩

theorem body_ext {a b : List UInt8} {fields : List Nat} {ids : List Int64}
    (around : ∀ p, (∀ field ∈ fields, p < field ∨ field + 8 ≤ p) → a[p]? = b[p]?)
    (first : fields.mapM (readInt64 a) = .ok ids) (second : fields.mapM (readInt64 b) = .ok ids) :
    a = b := by
  apply List.ext_getElem?
  intro p
  by_cases outside : ∀ field ∈ fields, p < field ∨ field + 8 ≤ p
  · exact around p outside
  · simp only [not_forall, not_or, Nat.not_lt, Nat.not_le] at outside
    obtain ⟨field, member, above, below⟩ := outside
    obtain ⟨i, bound, rfl⟩ := List.mem_iff_getElem.mp member
    obtain ⟨size, in_a⟩ := List.forall₂_iff_get.mp (mapM_eq_ok.mp first)
    obtain ⟨_, in_b⟩ := List.forall₂_iff_get.mp (mapM_eq_ok.mp second)
    have bound_ids : i < ids.length := size ▸ bound
    have at_a := readInt64_eq_ok.mp (in_a i bound bound_ids)
    have at_b := readInt64_eq_ok.mp (in_b i bound bound_ids)
    rw [getElem?_of_slice? at_a above below, getElem?_of_slice? at_b above below]

theorem cursorIds_eq_ok {frame : Frame} {ids : List Int64} :
    frame.cursorIds = .ok ids ↔
      ∃ fields, frame.CursorFieldsAt fields ∧ fields.mapM (readInt64 frame.body) = .ok ids := by
  constructor
  · intro read
    obtain ⟨fields, placed, read⟩ := bind_eq_ok.mp read
    exact ⟨fields, cursorFieldsAt_of_ok placed, read⟩
  · rintro ⟨fields, placed, read⟩
    exact bind_eq_ok.mpr ⟨fields, cursorFields_of_at placed, read⟩

theorem CursorFieldsAt.unique {frame : Frame} {fields others : List Nat}
    (placed : frame.CursorFieldsAt fields) (again : frame.CursorFieldsAt others) :
    fields = others :=
  Except.ok.inj ((cursorFields_of_at placed).symm.trans (cursorFields_of_at again))

theorem withCursorIds_ok_iff {frame : Frame} {ids : List Int64} :
    (∃ other, frame.withCursorIds ids = .ok other) ↔
      ∃ own, frame.cursorIds = .ok own ∧ own.length = ids.length := by
  constructor
  · rintro ⟨other, made⟩
    obtain ⟨fields, placed, count, rfl⟩ := withCursorIds_eq_ok.mp made
    obtain ⟨own, read⟩ := placed.fit.reads
    exact ⟨own, cursorIds_eq_ok.mpr ⟨fields, placed, read⟩, (mapM_ok_length read).symm.trans count⟩
  · rintro ⟨own, read, count⟩
    exact withCursorIds_ok read count.symm

theorem rewritten_body {frame : Frame} {fields : List Nat} {ids others : List Int64}
    (placed : frame.CursorFieldsAt fields) (second : fields.length = others.length) :
    (frame.rewritten fields ids).rewritten fields others = frame.rewritten fields others := by
  have fit := placed.fit
  have fit_again : FieldsFit (overwriteIds frame.body fields ids) fields :=
    ⟨fit.apart, fun field member => by rw [length_overwriteIds]; exact fit.inside field member⟩
  have body : overwriteIds (overwriteIds frame.body fields ids) fields others =
      overwriteIds frame.body fields others := by
    refine body_ext (fun p outside => ?_) (mapM_readInt64_overwriteIds fit_again second)
      (mapM_readInt64_overwriteIds fit second)
    rw [getElem?_overwriteIds outside, getElem?_overwriteIds outside, getElem?_overwriteIds outside]
  simp only [rewritten, body]

theorem rewritten_own {frame : Frame} {fields : List Nat} {own : List Int64}
    (placed : frame.CursorFieldsAt fields)
    (read : fields.mapM (readInt64 frame.body) = .ok own) : frame.rewritten fields own = frame := by
  have body : overwriteIds frame.body fields own = frame.body :=
    body_ext (fun p outside => getElem?_overwriteIds outside)
      (mapM_readInt64_overwriteIds placed.fit (mapM_ok_length read)) read
  simp only [rewritten, body]

namespace SameButCursors

variable {a b : Frame}

theorem header (same : a.SameButCursors b) : b.header = a.header := by
  simp only [Frame.header, Frame.length, same.length, same.requestId, same.responseTo, same.opCode]

theorem more (same : a.SameButCursors b) (code : a.opCode = .getMore) :
    ∃ ns next, readCString a.body 4 = .ok (ns, next) ∧ readCString b.body 4 = .ok (ns, next) ∧
      readInt32 b.body next = readInt32 a.body next := by
  obtain ⟨fields, placed, _, outside⟩ := same.fields
  cases placed with
  | killed at_code | answered at_code => exact absurd (code.symm.trans at_code) nofun
  | absent others => exact absurd code others.1
  | @more ns next _ text inside =>
    have before : ∀ p, p < next + 4 → a.body[p]? = b.body[p]? := by
      intro p below
      apply outside p
      intro field member
      rw [List.mem_singleton.mp member]
      exact .inl below
    refine ⟨ns, next, text, readCString_congr text same.length fun p below => before p (by omega), ?_⟩
    exact (readInt32_congr same.length fun p _ below => before p below).symm

theorem other (same : a.SameButCursors b) (unmore : a.opCode ≠ .getMore) :
    b = a ∨ a.opCode = .killCursors ∨ a.opCode = .reply := by
  by_cases killed : a.opCode = .killCursors
  · exact .inr (.inl killed)
  · by_cases answered : a.opCode = .reply
    · exact .inr (.inr answered)
    · exact .inl (same.eq ⟨unmore, killed, answered⟩)

theorem namespace? (same : a.SameButCursors b) : b.namespace? = a.namespace? := by
  by_cases code : a.opCode = .getMore
  · obtain ⟨ns, next, in_a, in_b, _⟩ := same.more code
    simp only [Frame.namespace?, same.opCode, code, in_a, in_b]
  · rcases same.other code with rfl | code | code
    · rfl
    · simp only [Frame.namespace?, same.opCode, code]
    · simp only [Frame.namespace?, same.opCode, code]

theorem kind (same : a.SameButCursors b) : b.kind = a.kind := by
  have query : b.isCommandQuery = a.isCommandQuery := by
    simp only [isCommandQuery, same.opCode, same.namespace?]
  unfold Frame.kind
  rw [same.opCode, query]

theorem numberToReturn? (same : a.SameButCursors b) : b.numberToReturn? = a.numberToReturn? := by
  by_cases code : a.opCode = .getMore
  · obtain ⟨ns, next, in_a, in_b, number⟩ := same.more code
    simp only [Frame.numberToReturn?, same.opCode, code, in_a, in_b, number, Except.toOption,
      Option.bind_eq_bind, Option.bind_some]
  · have absent : ∀ frame : Frame, frame.opCode = .killCursors ∨ frame.opCode = .reply →
        frame.numberToReturn? = none := by
      rintro frame (code | code) <;>
        simp only [Frame.numberToReturn?, code, Option.bind_eq_bind, Option.bind_fun_none]
    rcases same.other code with rfl | code
    · rfl
    · rw [absent a code, absent b (by rwa [same.opCode])]

theorem getElem?_bytes (same : a.SameButCursors b) {fields : List Nat}
    (placed : a.CursorFieldsAt fields) {p : Nat}
    (outside : ∀ field ∈ fields, p < headerLength + field ∨ headerLength + field + 8 ≤ p) :
    b.bytes[p]? = a.bytes[p]? := by
  obtain ⟨others, again, _, agree⟩ := same.fields
  have headers : a.header.bytes.length = headerLength := Header.length_bytes _
  rw [placed.unique again] at outside
  rw [Frame.bytes, Frame.bytes, same.header, List.getElem?_append, List.getElem?_append, headers]
  split
  · rfl
  · refine (agree _ fun field member => ?_).symm
    have apart := outside field member
    omega

end SameButCursors

structure Replaced (frame : Frame) (fields : List Nat) (ids : List Int64) (other : Frame) :
    Prop where
  header : other.header = frame.header
  length : other.length = frame.length
  kind : other.kind = frame.kind
  ns : other.namespace? = frame.namespace?
  number : other.numberToReturn? = frame.numberToReturn?
  carries : other.cursorIds = .ok ids
  bytes : ∀ p, (∀ field ∈ fields, p < headerLength + field ∨ headerLength + field + 8 ≤ p) →
    other.bytes[p]? = frame.bytes[p]?
  read : ofBytes other.bytes = .ok other
  again : ∀ others : List Int64, others.length = ids.length →
    other.withCursorIds others = frame.withCursorIds others

theorem replaced {frame other : Frame} {fields : List Nat} {ids : List Int64}
    (canonical : OpCode.ofCode frame.opCode.code = frame.opCode)
    (placed : frame.CursorFieldsAt fields) (made : frame.withCursorIds ids = .ok other) :
    frame.Replaced fields ids other := by
  have same := SameButCursors.of_withCursorIds made
  refine ⟨same.header, ?_, same.kind, same.namespace?, same.numberToReturn?,
    cursorIds_withCursorIds made, fun p outside => same.getElem?_bytes placed outside, ?_, ?_⟩
  · rw [Frame.length, Frame.length, same.length]
  · exact ofBytes_bytes (by rw [same.opCode, canonical])
  · intro others count
    obtain ⟨_, again, size, rfl⟩ := withCursorIds_eq_ok.mp made
    rw [← placed.unique again] at size ⊢
    have fits : fields.length = others.length := size.trans count.symm
    rw [withCursorIds_eq_ok.mpr ⟨fields, placed, fits, rfl⟩,
      withCursorIds_eq_ok.mpr ⟨fields, rewritten_fields placed, fits, rfl⟩,
      rewritten_body placed fits]

/-- Cursor ids of any frame that is read from bytes: as many ids as the frame has can be written over
    them, which changes nothing else. The fields lie apart from each other and inside the frame, after
    its header, so that each id that is read stands there. -/
theorem cursor_ids_replaced {bytes : List UInt8} {frame : Frame} (read : ofBytes bytes = .ok frame) :
    (∀ ids, (∃ other, frame.withCursorIds ids = .ok other) ↔
        ∃ own, frame.cursorIds = .ok own ∧ own.length = ids.length) ∧
      (∀ ids other, frame.withCursorIds ids = .ok other →
        ∃ fields, frame.cursorFields = .ok fields ∧ frame.Replaced fields ids other) ∧
      (∀ own, frame.cursorIds = .ok own →
        frame.withCursorIds own = .ok frame ∧ ∃ fields, frame.cursorFields = .ok fields) ∧
      (∀ fields, frame.cursorFields = .ok fields →
        fields.Pairwise (fun a b => a + 8 ≤ b) ∧
          (∀ field ∈ fields, headerLength + field + 8 ≤ bytes.length) ∧
          ∃ own, frame.cursorIds = .ok own ∧ List.Forall₂
            (fun field id => slice? bytes (headerLength + field) 8 = some (int64Bytes id))
            fields own) := by
  obtain ⟨rfl, canonical⟩ := ofBytes_eq_ok_iff.mp read
  refine ⟨fun ids => withCursorIds_ok_iff, fun ids other made => ?_, fun own found => ?_,
    fun fields placed => ?_⟩
  · obtain ⟨fields, placed, _⟩ := withCursorIds_eq_ok.mp made
    exact ⟨fields, cursorFields_of_at placed, replaced canonical placed made⟩
  · obtain ⟨fields, placed, found⟩ := cursorIds_eq_ok.mp found
    have same := rewritten_own placed found
    exact ⟨withCursorIds_eq_ok.mpr ⟨fields, placed, mapM_ok_length found, same.symm⟩,
      fields, cursorFields_of_at placed⟩
  · have placed := cursorFieldsAt_of_ok placed
    have fit := placed.fit
    obtain ⟨own, found⟩ := fit.reads
    refine ⟨fit.apart, fun field member => ?_, own, cursorIds_eq_ok.mpr ⟨fields, placed, found⟩, ?_⟩
    · have inside := fit.inside field member
      rw [length_bytes, Frame.length]
      omega
    · refine (mapM_eq_ok.mp found).imp fun field id held => ?_
      have stands := readInt64_eq_ok.mp held
      have headers : frame.header.bytes.length = headerLength := Header.length_bytes _
      rw [Frame.bytes, ← headers, slice?_append_right, stands]

def requestForMore : Frame where
  requestId := 7
  responseTo := 0
  opCode := .getMore
  body := int32Bytes 0 ++ [100, 98, 46, 99, 0] ++ int32Bytes 5 ++ int64Bytes 4242
  body_le := by decide

theorem requestForMore_replaced :
    ofBytes requestForMore.bytes = .ok requestForMore ∧
      requestForMore.cursorIds = .ok [4242] ∧
      ∃ other fields, requestForMore.withCursorIds [99] = .ok other ∧
        requestForMore.Replaced fields [99] other := by
  have read : ofBytes requestForMore.bytes = .ok requestForMore := by decide +kernel
  have own : requestForMore.cursorIds = .ok [4242] := by decide +kernel
  obtain ⟨whenever, replaces, _, _⟩ := cursor_ids_replaced read
  obtain ⟨other, made⟩ := (whenever [99]).mpr ⟨[4242], own, rfl⟩
  obtain ⟨fields, _, replaced⟩ := replaces [99] other made
  exact ⟨read, own, other, fields, made, replaced⟩

end Frame

end TrafficReplay
