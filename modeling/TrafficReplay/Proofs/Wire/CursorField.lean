import TrafficReplay.Proofs.Checked
import TrafficReplay.Wire.CursorField
import TrafficReplay.Wire.Reply

namespace TrafficReplay

theorem slice?_congr {a b : List UInt8} {offset size : Nat} (length : a.length = b.length)
    (same : ∀ p, offset ≤ p → p < offset + size → a[p]? = b[p]?) :
    slice? a offset size = slice? b offset size := by
  unfold slice?
  rw [length]
  split
  · rename_i inside
    congr 1
    apply List.ext_getElem?
    intro p
    by_cases within : p < size
    · simp only [List.getElem?_take, within, ↓reduceIte, List.getElem?_drop]
      exact same _ (by omega) (by omega)
    · simp only [List.getElem?_take, within, ↓reduceIte]
  · rfl

theorem readInt64_congr {a b : List UInt8} {offset : Nat} (length : a.length = b.length)
    (same : ∀ p, offset ≤ p → p < offset + 8 → a[p]? = b[p]?) :
    readInt64 a offset = readInt64 b offset := by
  rw [readInt64, readInt64, slice?_congr length same]

theorem readInt32_congr {a b : List UInt8} {offset : Nat} (length : a.length = b.length)
    (same : ∀ p, offset ≤ p → p < offset + 4 → a[p]? = b[p]?) :
    readInt32 a offset = readInt32 b offset := by
  rw [readInt32, readInt32, slice?_congr length same]

theorem readInt64_ok {bytes : List UInt8} {offset : Nat} (inside : offset + 8 ≤ bytes.length) :
    ∃ n, readInt64 bytes offset = .ok n := by
  simp [readInt64, slice?, inside]

theorem take_congr {a b : List UInt8} {count : Nat} (same : ∀ p, p < count → a[p]? = b[p]?) :
    a.take count = b.take count := by
  apply List.ext_getElem?
  intro p
  by_cases within : p < count
  · simp only [List.getElem?_take, within, ↓reduceIte]
    exact same p within
  · simp only [List.getElem?_take, within, ↓reduceIte]

theorem splitAtZero?_eq_some {bytes head tail : List UInt8} :
    splitAtZero? bytes = some (head, tail) ↔ bytes = head ++ 0 :: tail ∧ 0 ∉ head := by
  fun_induction splitAtZero? bytes generalizing head tail with
  | case1 => simp
  | case2 rest =>
    constructor
    · intro split
      cases split
      exact ⟨rfl, List.not_mem_nil⟩
    · rintro ⟨whole, nonzero⟩
      cases head with
      | nil => cases whole; rfl
      | cons byte head =>
        cases whole
        exact absurd List.mem_cons_self nonzero
  | case3 byte rest nonzero ih =>
    constructor
    · intro split
      obtain ⟨⟨innerHead, innerTail⟩, inner, pair⟩ := Option.map_eq_some_iff.mp split
      cases pair
      obtain ⟨whole, clean⟩ := ih.mp inner
      refine ⟨by rw [whole, List.cons_append], ?_⟩
      intro member
      rcases List.mem_cons.mp member with zero | member
      · exact nonzero zero.symm
      · exact clean member
    · rintro ⟨whole, clean⟩
      cases head with
      | nil =>
        cases whole
        exact absurd rfl nonzero
      | cons other head =>
        cases whole
        have inner := ih.mpr ⟨rfl, fun member => clean (List.mem_cons_of_mem _ member)⟩
        rw [inner]
        rfl

theorem readCString_congr {a b : List UInt8} {offset next : Nat} {text : String}
    (read : readCString a offset = .ok (text, next)) (length : a.length = b.length)
    (same : ∀ p, p < next → a[p]? = b[p]?) : readCString b offset = .ok (text, next) := by
  unfold readCString at read ⊢
  rw [← length]
  split at read
  · cases read
  · rename_i inside
    simp only [inside, ↓reduceIte]
    split at read
    · cases read
    · rename_i content tail split
      split at read
      · cases read
      · rename_i decoded read_text
        cases read
        obtain ⟨whole, clean⟩ := splitAtZero?_eq_some.mp split
        have front : (b.take (offset + content.length + 1)).drop offset = content ++ [0] := by
          rw [← take_congr same, List.drop_take, whole]
          have size : offset + content.length + 1 - offset = (content ++ [(0 : UInt8)]).length := by
            simp only [List.length_append, List.length_cons, List.length_nil]
            omega
          rw [size, ← List.singleton_append (l := tail), ← List.append_assoc, List.take_left]
        have behind : b.drop offset =
            content ++ 0 :: b.drop (offset + content.length + 1) := by
          have parts := List.take_append_drop (offset + content.length + 1) b
          calc b.drop offset
              = (b.take (offset + content.length + 1) ++
                  b.drop (offset + content.length + 1)).drop offset := by rw [parts]
            _ = (b.take (offset + content.length + 1)).drop offset ++
                  b.drop (offset + content.length + 1) := by
                rw [List.drop_append_of_le_length]
                rw [List.length_take, ← length]
                have bound : content.length + 1 ≤ (a.drop offset).length := by
                  rw [whole]
                  simp only [List.length_append, List.length_cons]
                  omega
                rw [List.length_drop] at bound
                omega
            _ = content ++ 0 :: b.drop (offset + content.length + 1) := by
                rw [front, List.append_assoc, List.singleton_append]
        rw [splitAtZero?_eq_some.mpr ⟨behind, clean⟩]
        simp only [read_text]

namespace Frame

theorem getElem?_overwrite {bytes replacement : List UInt8} {offset p : Nat}
    (inside : offset + replacement.length ≤ bytes.length) :
    (overwrite bytes offset replacement)[p]? =
      if offset ≤ p ∧ p < offset + replacement.length then replacement[p - offset]?
      else bytes[p]? := by
  have front : (bytes.take offset).length = offset := by
    rw [List.length_take]
    omega
  unfold overwrite
  by_cases before : p < offset
  · rw [if_neg (by omega), List.append_assoc, List.getElem?_append_left (by omega),
      List.getElem?_take, if_pos before]
  · by_cases within : p < offset + replacement.length
    · rw [if_pos (by omega), List.append_assoc, List.getElem?_append_right (by omega), front,
        List.getElem?_append_left (by omega)]
    · rw [if_neg (by omega), List.getElem?_append_right (by rw [List.length_append]; omega),
        List.getElem?_drop, List.length_append, front]
      congr 1
      omega

/-- Bytes outside the fields stay as they are. -/
theorem getElem?_overwriteIds {body : List UInt8} {fields : List Nat} {ids : List Int64} {p : Nat}
    (outside : ∀ field ∈ fields, p < field ∨ field + 8 ≤ p) :
    (overwriteIds body fields ids)[p]? = body[p]? := by
  fun_induction overwriteIds body fields ids with
  | case1 body field fields id ids replaced ih =>
    rw [ih fun other member => outside other (List.mem_cons_of_mem _ member)]
    by_cases inside : field + 8 ≤ body.length
    · simp only [replaced, inside, ↓reduceIte]
      have apart := outside field List.mem_cons_self
      rw [getElem?_overwrite (by simpa using inside), length_int64Bytes, if_neg (by omega)]
    · simp only [replaced, inside, ↓reduceIte]
  | case2 => rfl

theorem readInt64_overwrite {bytes : List UInt8} {offset : Nat} {id : Int64}
    (inside : offset + 8 ≤ bytes.length) :
    readInt64 (overwrite bytes offset (int64Bytes id)) offset = .ok id := by
  have length : (overwrite bytes offset (int64Bytes id)).length = bytes.length :=
    length_overwrite (by simpa using inside)
  have written : (List.drop offset (overwrite bytes offset (int64Bytes id))).take 8 =
      int64Bytes id := by
    apply List.ext_getElem?
    intro p
    by_cases within : p < 8
    · rw [List.getElem?_take, if_pos within, List.getElem?_drop,
        getElem?_overwrite (by simpa using inside), length_int64Bytes, if_pos (by omega)]
      congr 1
      omega
    · rw [List.getElem?_take, if_neg within, List.getElem?_eq_none (by simpa using within)]
  simp only [readInt64, slice?, length, inside, ↓reduceIte, written, int64OfBytes_int64Bytes]

structure FieldsFit (body : List UInt8) (fields : List Nat) : Prop where
  apart : fields.Pairwise fun a b => a + 8 ≤ b
  inside : ∀ field ∈ fields, field + 8 ≤ body.length

theorem mapM_readInt64_overwriteIds {body : List UInt8} {fields : List Nat} {ids : List Int64}
    (fit : FieldsFit body fields) (count : fields.length = ids.length) :
    fields.mapM (readInt64 (overwriteIds body fields ids)) = .ok ids := by
  fun_induction overwriteIds body fields ids with
  | case1 body field fields id ids replaced ih =>
    have inside := fit.inside field List.mem_cons_self
    have same : replaced = overwrite body field (int64Bytes id) := by
      simp only [replaced, inside, ↓reduceIte]
    have length : replaced.length = body.length := by
      rw [same]
      exact length_overwrite (by simpa using inside)
    have apart := List.pairwise_cons.mp fit.apart
    have others : FieldsFit replaced fields := by
      refine ⟨apart.2, ?_⟩
      intro other member
      rw [length]
      exact fit.inside other (List.mem_cons_of_mem _ member)
    -- The fields behind the first one do not reach back into it.
    have first : readInt64 (overwriteIds replaced fields ids) field = .ok id := by
      rw [readInt64_congr (b := replaced) (length_overwriteIds ..), same,
        readInt64_overwrite inside]
      intro p _ below
      apply getElem?_overwriteIds
      intro other member
      have behind := apart.1 other member
      omega
    rw [List.mapM_cons, first, ih others (by simpa using count)]
    rfl
  | case2 fields body ids uneven =>
    cases fields with
    | nil =>
      cases ids with
      | nil => rfl
      | cons id ids => simp at count
    | cons field fields =>
      cases ids with
      | nil => simp at count
      | cons id ids => exact absurd rfl (uneven field fields id ids rfl)

/-- Where the cursor ids of a frame stand, by its operation code. -/
inductive CursorFieldsAt (frame : Frame) : List Nat → Prop
  | more {ns : String} {next : Nat} (code : frame.opCode = .getMore)
      (text : readCString frame.body 4 = .ok (ns, next))
      (inside : next + 4 + 8 ≤ frame.body.length) : CursorFieldsAt frame [next + 4]
  | killed {count : Int32} (code : frame.opCode = .killCursors)
      (read : readInt32 frame.body 4 = .ok count) (nonnegative : ¬ count < 0)
      (inside : count.toNatClampNeg * 8 + 8 ≤ frame.body.length) :
      CursorFieldsAt frame ((List.range count.toNatClampNeg).map fun i => 8 + i * 8)
  | answered (code : frame.opCode = .reply) (inside : 12 ≤ frame.body.length) :
      CursorFieldsAt frame [4]
  | absent (code : frame.opCode ≠ .getMore ∧ frame.opCode ≠ .killCursors ∧
      frame.opCode ≠ .reply) : CursorFieldsAt frame []

theorem cursorFieldsAt_of_ok {frame : Frame} {fields : List Nat}
    (read : frame.cursorFields = .ok fields) : frame.CursorFieldsAt fields := by
  unfold cursorFields at read
  cases code : frame.opCode with
  | getMore =>
    simp only [code] at read
    obtain ⟨pair, text, read⟩ := bind_eq_ok.mp read
    simp only [bind, Except.bind, pure, Except.pure, throw, throwThe, MonadExceptOf.throw,
      List.getLast?_singleton] at read
    split at read
    · cases read
    · rename_i inside
      cases read
      exact .more code text (by omega)
  | killCursors =>
    simp only [code] at read
    obtain ⟨count, number, read⟩ := bind_eq_ok.mp read
    simp only [bind, Except.bind, pure, Except.pure, throw, throwThe, MonadExceptOf.throw] at read
    split at read
    · cases read
    · rename_i nonnegative
      split at read
      · cases read
      · rename_i inside
        have placed := CursorFieldsAt.killed code number nonnegative (by omega)
        split at read
        · split at read
          · cases read
          · cases read
            exact placed
        · cases read
          exact placed
  | reply =>
    simp only [code, bind, Except.bind, pure, Except.pure, throw, throwThe, MonadExceptOf.throw,
      List.getLast?_singleton] at read
    split at read
    · cases read
    · rename_i inside
      cases read
      exact .answered code (by omega)
  | _ =>
    simp only [code, bind, Except.bind, pure, Except.pure, List.getLast?_nil, Except.ok.injEq]
      at read
    cases read
    exact .absent (by simp [code])

theorem cursorFields_of_at {frame : Frame} {fields : List Nat}
    (placed : frame.CursorFieldsAt fields) : frame.cursorFields = .ok fields := by
  unfold cursorFields
  cases placed with
  | more code text inside =>
    simp only [code, text, bind, Except.bind, pure, Except.pure, throw, throwThe,
      MonadExceptOf.throw, List.getLast?_singleton]
    rw [if_neg (by omega)]
  | @killed count code read nonnegative inside =>
    simp only [code, read, bind, Except.bind, pure, Except.pure, throw, throwThe,
      MonadExceptOf.throw]
    rw [if_neg nonnegative, if_neg (by omega)]
    split
    · rename_i last final
      have member := List.mem_of_getLast? final
      simp only [List.mem_map, List.mem_range] at member
      obtain ⟨i, below, rfl⟩ := member
      rw [if_neg (by omega)]
    · rfl
  | answered code inside =>
    simp only [code, bind, Except.bind, pure, Except.pure, throw, throwThe, MonadExceptOf.throw,
      List.getLast?_singleton]
    rw [if_neg (by omega)]
  | absent code =>
    cases other : frame.opCode with
    | getMore => exact absurd other code.1
    | killCursors => exact absurd other code.2.1
    | reply => exact absurd other code.2.2
    | _ =>
      simp only [bind, Except.bind, pure, Except.pure, List.getLast?_nil]

theorem CursorFieldsAt.fit {frame : Frame} {fields : List Nat}
    (placed : frame.CursorFieldsAt fields) : FieldsFit frame.body fields := by
  cases placed with
  | more _ _ inside => exact ⟨List.pairwise_singleton .., by simpa using inside⟩
  | @killed count _ _ _ inside =>
    constructor
    · rw [List.pairwise_map]
      exact List.pairwise_lt_range.imp fun below => by omega
    · intro field member
      simp only [List.mem_map, List.mem_range] at member
      obtain ⟨i, below, rfl⟩ := member
      omega
  | answered _ inside => exact ⟨List.pairwise_singleton .., by simpa using inside⟩
  | absent => exact ⟨List.Pairwise.nil, by simp⟩

theorem CursorFieldsAt.transfer {frame other : Frame} {fields : List Nat}
    (placed : frame.CursorFieldsAt fields) (code : other.opCode = frame.opCode)
    (length : frame.body.length = other.body.length)
    (same : ∀ p, (∀ field ∈ fields, p < field ∨ field + 8 ≤ p) →
      frame.body[p]? = other.body[p]?) : other.CursorFieldsAt fields := by
  cases placed with
  | more at_code text inside =>
    have read := readCString_congr text length fun p below =>
      same p fun field member => by
        simp only [List.mem_singleton] at member
        omega
    exact .more (code.trans at_code) read (by omega)
  | killed at_code read nonnegative inside =>
    rw [readInt32_congr (b := other.body) length] at read
    · exact .killed (code.trans at_code) read nonnegative (by omega)
    · intro p _ below
      apply same
      intro field member
      simp only [List.mem_map, List.mem_range] at member
      obtain ⟨i, _, rfl⟩ := member
      omega
  | answered at_code inside => exact .answered (code.trans at_code) (by omega)
  | absent others => exact .absent (by rw [code]; exact others)

theorem cursorFieldsAt_of_cursorIds {frame : Frame} {ids : List Int64}
    (read : frame.cursorIds = .ok ids) :
    ∃ fields, frame.CursorFieldsAt fields ∧ fields.length = ids.length := by
  obtain ⟨fields, placed, read⟩ := bind_eq_ok.mp read
  exact ⟨fields, cursorFieldsAt_of_ok placed, mapM_ok_length read⟩

def rewritten (frame : Frame) (fields : List Nat) (ids : List Int64) : Frame :=
  { frame with
    body := overwriteIds frame.body fields ids
    body_le := by rw [length_overwriteIds]; exact frame.body_le }

theorem withCursorIds_eq_ok {frame other : Frame} {ids : List Int64} :
    frame.withCursorIds ids = .ok other ↔
      ∃ fields, frame.CursorFieldsAt fields ∧ fields.length = ids.length ∧
        other = frame.rewritten fields ids := by
  unfold withCursorIds
  constructor
  · intro made
    obtain ⟨fields, placed, made⟩ := bind_eq_ok.mp made
    simp only [bind, Except.bind, pure, Except.pure, throw, throwThe, MonadExceptOf.throw] at made
    split at made
    · cases made
    · rename_i count
      cases made
      exact ⟨fields, cursorFieldsAt_of_ok placed, Decidable.not_not.mp count, rfl⟩
  · rintro ⟨fields, placed, count, rfl⟩
    simp only [cursorFields_of_at placed, bind, Except.bind, pure, Except.pure, count, ne_eq,
      not_true_eq_false, ↓reduceIte]
    rfl

theorem withCursorIds_ok {frame : Frame} {ids others : List Int64}
    (read : frame.cursorIds = .ok ids) (count : others.length = ids.length) :
    ∃ other, frame.withCursorIds others = .ok other := by
  obtain ⟨fields, placed, length⟩ := cursorFieldsAt_of_cursorIds read
  exact ⟨_, withCursorIds_eq_ok.mpr ⟨fields, placed, length.trans count.symm, rfl⟩⟩

section Rewritten

variable {frame other : Frame} {ids : List Int64}

theorem withCursorIds_requestId (made : frame.withCursorIds ids = .ok other) :
    other.requestId = frame.requestId := by
  obtain ⟨fields, _, _, rfl⟩ := withCursorIds_eq_ok.mp made
  rfl

theorem rewritten_fields {fields : List Nat} (placed : frame.CursorFieldsAt fields) :
    (frame.rewritten fields ids).CursorFieldsAt fields :=
  placed.transfer rfl (length_overwriteIds ..).symm fun _ outside =>
    (getElem?_overwriteIds outside).symm

theorem cursorIds_withCursorIds (made : frame.withCursorIds ids = .ok other) :
    other.cursorIds = .ok ids := by
  obtain ⟨fields, placed, count, rfl⟩ := withCursorIds_eq_ok.mp made
  simp only [cursorIds, cursorFields_of_at (rewritten_fields placed), bind, Except.bind]
  exact mapM_readInt64_overwriteIds placed.fit count

end Rewritten

end Frame

end TrafficReplay
