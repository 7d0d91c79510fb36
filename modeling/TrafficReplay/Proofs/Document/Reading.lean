import TrafficReplay.Proofs.Text.Utf8
import TrafficReplay.Proofs.Wire.CursorField

namespace TrafficReplay

def isMarking (key : String) : Bool :=
  key = "$code" || key = "$scope" || (Mark.ofKey? key).isSome

mutual

/-- Whether a value is read as it is written. Keys are distinct and mark no extended form, ids and
    decimals have their sizes, and the options of a pattern are in order. -/
def Value.isPlain : Value → Bool
  | .document fields => fieldsPlain fields
  | .array items => itemsPlain items
  | .objectId bytes => bytes.length = 12
  | .regex _ options => inOrder options.toList = options.toList
  | .pointer _ id => id.length = 12
  | .scopedCode _ scope => fieldsPlain scope
  | .decimal bytes => bytes.length = 16
  | _ => true

def fieldsPlain : List (String × Value) → Bool
  | [] => true
  | (key, value) :: rest =>
    !isMarking key && !(rest.map Prod.fst).contains key && value.isPlain && fieldsPlain rest

def itemsPlain : List Value → Bool
  | [] => true
  | value :: rest => value.isPlain && itemsPlain rest

end

mutual

def Value.item : Value → Item
  | .document fields => .document (fieldItems fields) true
  | .array items => .array (valueItems items) true
  | .scopedCode source scope => .scopedCode source (fieldItems scope) true
  | value => .flat value

def fieldItems : List (String × Value) → List (String × Item)
  | [] => []
  | (key, value) :: rest => (key, value.item) :: fieldItems rest

def valueItems : List Value → List Item
  | [] => []
  | value :: rest => value.item :: valueItems rest

end

theorem int32OfBytes_littleEndian {n : Nat} (small : n < 2 ^ 31) :
    (int32OfBytes (littleEndian 4 n)).toInt = n := by
  have whole : n % 256 ^ 4 = n := Nat.mod_eq_of_lt (by omega)
  have same : (UInt32.ofNat n).toInt32 = Int32.ofNat n := by
    apply Int32.toBitVec_inj.mp
    rfl
  rw [int32OfBytes, ofLittleEndian_littleEndian, whole, same, Int32.toInt_ofNat_of_lt small]

theorem int32At_littleEndian {n : Nat} (small : n < 2 ^ 31) (rest : List UInt8) :
    int32At (littleEndian 4 n ++ rest) = n := by
  have front : (littleEndian 4 n ++ rest).take 4 = littleEndian 4 n :=
    List.take_left' (length_littleEndian 4 n)
  rw [int32At, front, int32OfBytes_littleEndian small]

theorem lengthField?_littleEndian {least n : Nat} (enough : least ≤ n) (small : n < 2 ^ 31)
    (rest : List UInt8) : lengthField? least (littleEndian 4 n ++ rest) = some n := by
  have long : ¬(littleEndian 4 n ++ rest).length < 4 := by
    rw [List.length_append, length_littleEndian]
    omega
  have least_le : ¬((n : Int) < least) := by omega
  simp only [lengthField?, if_neg long, int32At_littleEndian small, if_neg least_le, Int.toNat_natCast]

@[simp] theorem text?_encode (text : String) : text? (Utf8.encode text) = some text := by
  simp [text?, Except.toOption]

theorem length_encodeText (text : String) :
    (encodeText text).length = (Utf8.encode text).length + 5 := by
  simp only [encodeText, List.length_append, length_littleEndian, List.length_singleton]
  omega

theorem readText?_encodeText {text : String} (short : (encodeText text).length < 2 ^ 31)
    (rest : List UInt8) : readText? (encodeText text ++ rest) = some (text, rest) := by
  rw [length_encodeText] at short
  have split : encodeText text ++ rest =
      littleEndian 4 ((Utf8.encode text).length + 1) ++ (Utf8.encode text ++ 0 :: rest) := by
    simp [encodeText]
  have field : lengthField? 1 (littleEndian 4 ((Utf8.encode text).length + 1) ++
      (Utf8.encode text ++ 0 :: rest)) = some ((Utf8.encode text).length + 1) :=
    lengthField?_littleEndian (by omega) (by omega) _
  have body : (littleEndian 4 ((Utf8.encode text).length + 1) ++
      (Utf8.encode text ++ 0 :: rest)).drop 4 = Utf8.encode text ++ 0 :: rest :=
    List.drop_left' (length_littleEndian 4 _)
  have long : ¬(Utf8.encode text ++ 0 :: rest).length < (Utf8.encode text).length + 1 := by
    simp
  rw [split]
  simp only [readText?, field, body, if_neg long, Option.bind_eq_bind, Option.bind_some,
    Nat.add_sub_cancel, List.take_left, List.drop_left, List.head?_cons, if_true, text?_encode]
  simp

theorem textSize?_encodeText {text : String} (short : (encodeText text).length < 2 ^ 31)
    (rest : List UInt8) :
    textSize? (encodeText text ++ rest) = some (encodeText text).length := by
  rw [length_encodeText] at short
  have split : encodeText text ++ rest =
      littleEndian 4 ((Utf8.encode text).length + 1) ++ (Utf8.encode text ++ 0 :: rest) := by
    simp [encodeText]
  rw [textSize?, split, lengthField?_littleEndian (by omega) (by omega), length_encodeText]
  simp only [Option.map_some, Option.some.injEq]
  omega

theorem length_frameFields (content : List UInt8) :
    (frameFields content).length = content.length + 5 := by
  simp only [frameFields, List.length_append, length_littleEndian, List.length_singleton]
  omega

theorem lengthField?_frameFields {content : List UInt8} (short : (frameFields content).length < 2 ^ 31)
    (rest : List UInt8) :
    lengthField? 5 (frameFields content ++ rest) = some (frameFields content).length := by
  rw [length_frameFields] at short ⊢
  rw [frameFields, List.append_assoc, List.append_assoc]
  exact lengthField?_littleEndian (by omega) short _

theorem content?_frameFields {content : List UInt8} (short : (frameFields content).length < 2 ^ 31) :
    content? (frameFields content) = some (content ++ [0]) := by
  have field := lengthField?_frameFields short []
  rw [List.append_nil] at field
  have last : (frameFields content).getLast? = some 0 := by simp [frameFields]
  have body : (frameFields content).drop 4 = content ++ [0] := by
    rw [frameFields, List.append_assoc]
    exact List.drop_left' (length_littleEndian 4 _)
  simp only [content?, field, last, body, Option.bind_eq_bind, Option.bind_some, true_and, if_true]
  rfl

theorem encodeCString_eq_some {text : String} {bytes : List UInt8} :
    encodeCString text = some bytes ↔
      '\x00' ∉ text.toList ∧ bytes = Utf8.encode text ++ [0] := by
  unfold encodeCString
  split
  · rename_i nul
    simp only [reduceCtorEq, false_iff, not_and]
    intro clean
    exact absurd (List.contains_iff_mem.mp nul) clean
  · rename_i clean
    rw [Option.some.injEq, eq_comm]
    exact ⟨fun same => ⟨fun nul => clean (List.contains_iff_mem.mpr nul), same⟩, And.right⟩

theorem splitAtZero?_encode {text : String} (clean : '\x00' ∉ text.toList) (rest : List UInt8) :
    splitAtZero? (Utf8.encode text ++ 0 :: rest) = some (Utf8.encode text, rest) :=
  splitAtZero?_eq_some.mpr ⟨rfl, fun zero => clean (Utf8.zero_mem_encode zero)⟩

/-- What the bytes of a value say of it: their number, whatever comes after them, and the value. -/
structure ReadsAs (tag : UInt8) (body : List UInt8) (item : Item) : Prop where
  size : ∀ rest, valueSize? tag (body ++ rest) = some body.length
  opens : ∃ opened, openValue? tag body = some opened ∧ opened.close (readItems opened.inner) = item

theorem ReadsAs.flat {tag : UInt8} {body : List UInt8} {value : Value}
    (size : ∀ rest, valueSize? tag (body ++ rest) = some body.length)
    (composed : tag ≠ 0x03 ∧ tag ≠ 0x04 ∧ tag ≠ 0x0F) (read : readFlat? tag body = some value) :
    ReadsAs tag body (.flat value) := by
  refine ⟨size, .flat value, ?_, rfl⟩
  simp only [openValue?, if_neg composed.1, if_neg composed.2.1, if_neg composed.2.2, read,
    Option.map_some]

/-- An element is read from its tag, its key and the bytes of its value, and then the rest. -/
theorem readItems_element {tag : UInt8} {key : String} {body rest : List UInt8} {item : Item}
    (clean : '\x00' ∉ key.toList) (reads : ReadsAs tag body item) :
    readItems (tag :: (Utf8.encode key ++ 0 :: (body ++ rest))) =
      ((key, item) :: (readItems rest).1, (readItems rest).2) := by
  obtain ⟨size, opened, opens, closes⟩ := reads
  have keyed := splitAtZero?_encode clean (body ++ rest)
  have nonempty : Utf8.encode key ++ 0 :: (body ++ rest) ≠ [] := by simp
  have fits : ¬(body ++ rest).length < body.length := by simp
  rw [readItems]
  · split
    · rename_i none
      cases none.symm.trans keyed
    · rename_i found left split
      cases split.symm.trans keyed
      simp only [text?_encode, size rest, if_neg fits]
      split
      · rename_i none
        rw [List.take_left, opens] at none
        cases none
      · rename_i other read
        rw [List.take_left, opens] at read
        cases read
        rw [List.drop_left, closes]
  · exact nonempty

theorem Value.tag_of_flat {value : Value} (flat : value.item = .flat value) :
    value.tag ≠ 0x03 ∧ value.tag ≠ 0x04 ∧ value.tag ≠ 0x0F := by
  cases value with
  | document | array | scopedCode => cases flat
  | _ => simp [tag]

theorem ReadsAs.double (value : Double) :
    ReadsAs 0x01 (littleEndian 8 value.bits.toNat) (.flat (.double value)) := by
  refine .flat (fun rest => by simp [valueSize?]) (by decide) ?_
  have bound := value.bits.toNat_lt
  simp only [readFlat?, ofLittleEndian_littleEndian]
  rw [Nat.mod_eq_of_lt (by omega), UInt64.ofNat_toNat]
  rfl

theorem ReadsAs.timestamp (time increment : UInt32) :
    ReadsAs 0x11 (littleEndian 4 increment.toNat ++ littleEndian 4 time.toNat)
      (.flat (.timestamp time increment)) := by
  refine .flat (fun rest => by simp [valueSize?]) (by decide) ?_
  have time_bound := time.toNat_lt
  have increment_bound := increment.toNat_lt
  have front : (littleEndian 4 increment.toNat ++ littleEndian 4 time.toNat).take 4 = _ :=
    List.take_left' (length_littleEndian 4 increment.toNat)
  have back : (littleEndian 4 increment.toNat ++ littleEndian 4 time.toNat).drop 4 = _ :=
    List.drop_left' (length_littleEndian 4 increment.toNat)
  simp only [readFlat?, front, back, ofLittleEndian_littleEndian]
  rw [Nat.mod_eq_of_lt (by omega), Nat.mod_eq_of_lt (by omega), UInt32.ofNat_toNat,
    UInt32.ofNat_toNat]
  rfl

theorem ReadsAs.text {text : String} {tag : UInt8} {value : Value}
    (kind : tag = 0x02 ∧ value = .text text ∨ tag = 0x0D ∧ value = .code text ∨
      tag = 0x0E ∧ value = .symbol text) (short : (encodeText text).length < 2 ^ 31) :
    ReadsAs tag (encodeText text) (.flat value) := by
  have read := readText?_encodeText short []
  rw [List.append_nil] at read
  rcases kind with ⟨rfl, rfl⟩ | ⟨rfl, rfl⟩ | ⟨rfl, rfl⟩ <;>
    exact .flat (fun rest => by simp [valueSize?, textSize?_encodeText short]) (by decide)
      (by simp [readFlat?, read])

theorem ReadsAs.pointer {namespaced : String} {id : List UInt8}
    (short : (encodeText namespaced).length < 2 ^ 31) (twelve : id.length = 12) :
    ReadsAs 0x0C (encodeText namespaced ++ id) (.flat (.pointer namespaced id)) :=
  .flat (fun rest => by simp [valueSize?, textSize?_encodeText short, twelve]) (by decide)
    (by simp [readFlat?, readText?_encodeText short])

theorem ReadsAs.regex {pattern options : String} (clean : '\x00' ∉ pattern.toList)
    (clean_options : '\x00' ∉ options.toList) :
    ReadsAs 0x0B (Utf8.encode pattern ++ [0] ++ (Utf8.encode options ++ [0]))
      (.flat (.regex pattern (String.ofList (inOrder options.toList)))) := by
  have split (rest : List UInt8) : splitAtZero? (Utf8.encode pattern ++ [0] ++
      (Utf8.encode options ++ [0]) ++ rest) = some (Utf8.encode pattern,
        Utf8.encode options ++ 0 :: rest) := by
    simpa using splitAtZero?_encode clean (Utf8.encode options ++ 0 :: rest)
  have split_options (rest : List UInt8) := splitAtZero?_encode clean_options rest
  refine .flat (fun rest => ?_) (by decide) ?_
  · simp only [valueSize?, split, Option.bind_eq_bind, Option.bind_some, split_options]
    simp
    omega
  · have split_whole := split []
    rw [List.append_nil] at split_whole
    simp only [readFlat?, split_whole, Option.bind_eq_bind, Option.bind_some, split_options]
    simp

theorem ReadsAs.oldBinary {bytes : List UInt8} (short : bytes.length + 4 < 2 ^ 31) :
    ReadsAs 0x05 (littleEndian 4 (bytes.length + 4) ++ [2] ++ littleEndian 4 bytes.length ++ bytes)
      (.flat (.binary 2 bytes)) := by
  have field (rest : List UInt8) : lengthField? 0 (littleEndian 4 (bytes.length + 4) ++ rest) =
      some (bytes.length + 4) := lengthField?_littleEndian (Nat.zero_le _) short rest
  have behind (rest : List UInt8) : (littleEndian 4 (bytes.length + 4) ++ rest).drop 4 = rest :=
    List.drop_left' (length_littleEndian 4 _)
  have content : (littleEndian 4 bytes.length ++ bytes).drop 4 = bytes :=
    List.drop_left' (length_littleEndian 4 _)
  have counted : int32At (littleEndian 4 bytes.length ++ bytes) =
      (littleEndian 4 bytes.length ++ bytes).length - 4 := by
    rw [int32At_littleEndian (by omega), List.length_append, length_littleEndian]
    omega
  refine .flat (fun rest => ?_) (by decide) ?_
  · simp only [valueSize?, List.append_assoc, field]
    simp
    omega
  · simp only [readFlat?, List.append_assoc, behind, List.singleton_append]
    simp [content, counted]

theorem ReadsAs.binary {subtype : UInt8} {bytes : List UInt8} (new : subtype ≠ 2)
    (short : bytes.length < 2 ^ 31) :
    ReadsAs 0x05 (littleEndian 4 bytes.length ++ [subtype] ++ bytes)
      (.flat (.binary subtype bytes)) := by
  have field (rest : List UInt8) : lengthField? 0 (littleEndian 4 bytes.length ++ rest) =
      some bytes.length := lengthField?_littleEndian (Nat.zero_le _) short rest
  have behind (rest : List UInt8) : (littleEndian 4 bytes.length ++ rest).drop 4 = rest :=
    List.drop_left' (length_littleEndian 4 _)
  refine .flat (fun rest => ?_) (by decide) ?_
  · simp only [valueSize?, List.append_assoc, field]
    simp
    omega
  · simp only [readFlat?, List.append_assoc, behind, List.singleton_append]
    simp [new]

theorem Value.flat_reads {value : Value} {body : List UInt8} (encoded : value.encode? = some body)
    (plain : value.isPlain = true) (short : body.length < 2 ^ 31) (flat : value.item = .flat value) :
    ReadsAs value.tag body (.flat value) := by
  cases value with
  | document | array | scopedCode => cases flat
  | double value =>
    cases encoded
    exact .double value
  | text value =>
    cases encoded
    exact .text (.inl ⟨rfl, rfl⟩) short
  | code source =>
    cases encoded
    exact .text (.inr (.inl ⟨rfl, rfl⟩)) short
  | symbol name =>
    cases encoded
    exact .text (.inr (.inr ⟨rfl, rfl⟩)) short
  | undefined | null | minKey | maxKey =>
    cases encoded
    exact .flat (fun rest => by simp [valueSize?, tag]) (tag_of_flat flat) (by simp [readFlat?, tag])
  | objectId bytes =>
    cases encoded
    have size : body.length = 12 := by simpa [isPlain] using plain
    exact .flat (fun rest => by simp [valueSize?, tag, size]) (tag_of_flat flat) (by simp [readFlat?, tag])
  | decimal bytes =>
    cases encoded
    have size : body.length = 16 := by simpa [isPlain] using plain
    exact .flat (fun rest => by simp [valueSize?, tag, size]) (tag_of_flat flat) (by simp [readFlat?, tag])
  | bool value =>
    cases encoded
    refine .flat (fun rest => by simp [valueSize?, tag]) (tag_of_flat flat) ?_
    cases value <;> simp [readFlat?, tag]
  | int32 value | date value | int64 value =>
    cases encoded
    exact .flat (fun rest => by simp [valueSize?, tag]) (tag_of_flat flat) (by simp [readFlat?, tag])
  | timestamp time increment =>
    cases encoded
    exact .timestamp time increment
  | pointer namespaced id =>
    cases encoded
    rw [List.length_append] at short
    exact .pointer (by omega) (by simpa [isPlain] using plain)
  | regex pattern options =>
    simp only [encode?, Option.bind_eq_bind, Option.bind_eq_some_iff, encodeCString_eq_some] at encoded
    obtain ⟨_, ⟨clean, rfl⟩, _, ⟨clean_options, rfl⟩, whole⟩ := encoded
    cases whole
    have ordered : inOrder options.toList = options.toList := by simpa [isPlain] using plain
    have read : ReadsAs 0x0B _ _ := .regex clean clean_options
    rwa [ordered, String.ofList_toList] at read
  | binary subtype bytes =>
    simp only [encode?] at encoded
    split at encoded
    · rename_i old
      cases encoded
      subst old
      simp only [List.length_append, length_littleEndian] at short
      exact .oldBinary (by omega)
    · rename_i new
      cases encoded
      simp only [List.length_append, length_littleEndian] at short
      exact .binary new (by omega)

theorem readItems_end : readItems [0] = ([], true) := by
  rw [readItems]
  rfl

mutual

theorem Value.reads (value : Value) {body : List UInt8} (encoded : value.encode? = some body)
    (plain : value.isPlain = true) (short : body.length < 2 ^ 31) :
    ReadsAs value.tag body value.item := by
  cases value with
  | document fields =>
    obtain ⟨content, written, rfl⟩ := Option.map_eq_some_iff.mp encoded
    have inner := fields_read fields written plain (by rw [length_frameFields] at short; omega)
    refine ⟨fun rest => by simp [valueSize?, Value.tag, lengthField?_frameFields short],
      .document (content ++ [0]), by simp [openValue?, Value.tag, content?_frameFields short], ?_⟩
    rw [Opened.inner, inner]
    rfl
  | array items =>
    obtain ⟨content, written, rfl⟩ := Option.map_eq_some_iff.mp encoded
    obtain ⟨fields, inner, values⟩ :=
      items_read 0 items written plain (by rw [length_frameFields] at short; omega)
    refine ⟨fun rest => by simp [valueSize?, Value.tag, lengthField?_frameFields short],
      .array (content ++ [0]), by simp [openValue?, Value.tag, content?_frameFields short], ?_⟩
    rw [Opened.inner, inner, Opened.close, values]
    rfl
  | scopedCode source scope =>
    simp only [Value.encode?, Option.bind_eq_bind, Option.bind_eq_some_iff, Option.map_eq_some_iff] at encoded
    obtain ⟨_, ⟨content, written, rfl⟩, whole⟩ := encoded
    cases whole
    have total : (littleEndian 4 (4 + (encodeText source).length + (frameFields content).length) ++
        encodeText source ++ frameFields content).length =
          4 + (encodeText source).length + (frameFields content).length := by
      simp only [List.length_append, length_littleEndian]
    rw [total] at short
    have text_size := length_encodeText source
    have scope_size := length_frameFields content
    have inner := fields_read scope written plain (by omega)
    have scope_short : (frameFields content).length < 2 ^ 31 := by omega
    have text_short : (encodeText source).length < 2 ^ 31 := by omega
    have behind (rest : List UInt8) : (littleEndian 4 (4 + (encodeText source).length +
        (frameFields content).length) ++ rest).drop 4 = rest :=
      List.drop_left' (length_littleEndian 4 _)
    have counted (bytes : List UInt8) :
        valueSize? (Value.scopedCode source scope).tag bytes = lengthField? 14 bytes := by
      simp [valueSize?, Value.tag]
    refine ⟨fun rest => ?_, .scopedCode source (content ++ [0]), ?_, ?_⟩
    · rw [total, List.append_assoc, List.append_assoc, counted]
      exact lengthField?_littleEndian (by omega) short _
    · simp only [openValue?, Value.tag, List.append_assoc, behind, readText?_encodeText text_short,
        Option.bind_eq_bind, Option.bind_some, content?_frameFields scope_short]
      rfl
    · rw [Opened.inner, inner]
      rfl
  | _ => exact Value.flat_reads encoded plain short rfl

theorem fields_read (fields : List (String × Value)) {content : List UInt8}
    (encoded : encodeFields fields = some content) (plain : fieldsPlain fields = true)
    (short : content.length < 2 ^ 31) :
    readItems (content ++ [0]) = (fieldItems fields, true) := by
  match fields with
  | [] =>
    cases encoded
    exact readItems_end
  | (key, value) :: rest =>
    simp only [encodeFields, Option.bind_eq_bind, Option.bind_eq_some_iff,
      encodeCString_eq_some] at encoded
    obtain ⟨_, ⟨clean, rfl⟩, body, written, others, remaining, whole⟩ := encoded
    cases whole
    simp only [fieldsPlain, Bool.and_eq_true] at plain
    simp only [List.length_cons, List.length_append] at short
    have first := Value.reads value written plain.1.2 (by omega)
    have later := fields_read rest remaining plain.2 (by omega)
    have shape : value.tag :: (Utf8.encode key ++ [0] ++ body ++ others) ++ [0] =
        value.tag :: (Utf8.encode key ++ 0 :: (body ++ (others ++ [0]))) := by simp
    rw [shape, readItems_element clean first, later]
    rfl

theorem items_read (position : Nat) (items : List Value) {content : List UInt8}
    (encoded : encodeItems position items = some content) (plain : itemsPlain items = true)
    (short : content.length < 2 ^ 31) :
    ∃ fields, readItems (content ++ [0]) = (fields, true) ∧
      fields.map Prod.snd = valueItems items := by
  match items with
  | [] =>
    cases encoded
    exact ⟨[], readItems_end, rfl⟩
  | value :: rest =>
    simp only [encodeItems, Option.bind_eq_bind, Option.bind_eq_some_iff,
      encodeCString_eq_some] at encoded
    obtain ⟨_, ⟨clean, rfl⟩, body, written, others, remaining, whole⟩ := encoded
    cases whole
    simp only [itemsPlain, Bool.and_eq_true] at plain
    simp only [List.length_cons, List.length_append] at short
    have first := Value.reads value written plain.1 (by omega)
    obtain ⟨fields, later, values⟩ := items_read (position + 1) rest remaining plain.2 (by omega)
    have shape : value.tag :: (Utf8.encode (toString position) ++ [0] ++ body ++ others) ++ [0] =
        value.tag :: (Utf8.encode (toString position) ++ 0 :: (body ++ (others ++ [0]))) := by simp
    refine ⟨(toString position, value.item) :: fields, ?_, by rw [List.map_cons, values]; rfl⟩
    rw [shape, readItems_element clean first, later]

end

theorem isMarking_eq_false {key : String} (unmarked : isMarking key = false) :
    key ≠ "$code" ∧ key ≠ "$scope" ∧ Mark.ofKey? key = none := by
  simpa [isMarking, and_assoc] using unmarked

theorem Document.insert_of_not_mem {doc : Document} {key : String} {value : Value}
    (fresh : key ∉ doc.map Prod.fst) : doc.insert key value = doc ++ [(key, value)] := by
  induction doc with
  | nil => rfl
  | cons field rest ih =>
    obtain ⟨other, old⟩ := field
    simp only [List.map_cons, List.mem_cons, not_or] at fresh
    rw [Document.insert, if_neg (Ne.symm fresh.1), ih fresh.2, List.cons_append]

mutual

theorem Value.value?_item (value : Value) (plain : value.isPlain = true) :
    value.item.value? = some value := by
  cases value with
  | document fields => exact fieldsValue?_fieldItems fields [] plain fun _ _ => List.not_mem_nil
  | array items =>
    simp only [Value.item, Item.value?, if_true, itemValues?_valueItems items plain, Option.map_some]
  | scopedCode source scope =>
    have inner := fieldsValue?_fieldItems scope [] plain fun _ _ => List.not_mem_nil
    simp only [Value.item, Item.value?, inner]
    rfl
  | _ => rfl

theorem fieldsValue?_fieldItems (fields : List (String × Value)) (read : Document)
    (plain : fieldsPlain fields = true)
    (fresh : ∀ key ∈ fields.map Prod.fst, key ∉ read.map Prod.fst) :
    fieldsValue? read true (fieldItems fields) = some (.document (read ++ fields)) := by
  match fields with
  | [] => simp [fieldItems, fieldsValue?]
  | (key, value) :: rest =>
    simp only [fieldsPlain, Bool.and_eq_true, Bool.not_eq_true'] at plain
    obtain ⟨⟨⟨unmarked, distinct⟩, value_plain⟩, rest_plain⟩ := plain
    obtain ⟨not_code, not_scope, none⟩ := isMarking_eq_false unmarked
    have new : key ∉ read.map Prod.fst := fresh key List.mem_cons_self
    have later : ∀ other ∈ rest.map Prod.fst, other ∉ (read ++ [(key, value)]).map Prod.fst := by
      intro other member
      have different : other ≠ key := by
        rintro rfl
        cases (List.contains_iff_mem.mpr member).symm.trans distinct
      simpa [different] using fresh other (List.mem_cons_of_mem _ member)
    rw [fieldItems, fieldsValue?.eq_def]
    simp only [if_neg not_code, if_neg not_scope, none, Value.value?_item value value_plain,
      Document.insert_of_not_mem new,
      fieldsValue?_fieldItems rest _ rest_plain later, List.append_assoc, List.singleton_append]

theorem itemValues?_valueItems (items : List Value) (plain : itemsPlain items = true) :
    itemValues? (valueItems items) = some items := by
  match items with
  | [] => rfl
  | value :: rest =>
    simp only [itemsPlain, Bool.and_eq_true] at plain
    simp only [valueItems, itemValues?, Value.value?_item value plain.1,
      itemValues?_valueItems rest plain.2]

end

theorem Document.decode?_encode? {doc : Document} {bytes : List UInt8}
    (encoded : doc.encode? = some bytes) (plain : fieldsPlain doc = true)
    (short : bytes.length < 2 ^ 31) : Document.decode? bytes = some doc := by
  obtain ⟨content, written, rfl⟩ := Option.map_eq_some_iff.mp encoded
  have inner := fields_read doc written plain (by rw [length_frameFields] at short; omega)
  have whole := fieldsValue?_fieldItems doc [] plain fun _ _ => List.not_mem_nil
  simp only [decode?, content?_frameFields short, Option.bind_eq_bind, Option.bind_some, inner, whole]
  rfl

theorem Document.decode?_regex {key pattern options : String} {bytes : List UInt8}
    (encoded : Document.encode? [(key, .regex pattern options)] = some bytes)
    (unmarked : isMarking key = false) (short : bytes.length < 2 ^ 31) :
    Document.decode? bytes =
      some [(key, .regex pattern (String.ofList (inOrder options.toList)))] := by
  obtain ⟨content, written, rfl⟩ := Option.map_eq_some_iff.mp encoded
  simp only [encodeFields, Value.encode?, Option.bind_eq_bind, Option.bind_eq_some_iff,
    encodeCString_eq_some] at written
  obtain ⟨_, ⟨clean, rfl⟩, body, ⟨_, ⟨clean_pattern, rfl⟩, _, ⟨clean_options, rfl⟩, made⟩,
    _, ended, whole⟩ := written
  cases made
  cases ended
  cases whole
  have reads := ReadsAs.regex clean_pattern clean_options
  obtain ⟨not_code, not_scope, none⟩ := isMarking_eq_false unmarked
  rw [List.append_nil] at short ⊢
  have shape : (Value.regex pattern options).tag :: (Utf8.encode key ++ [0] ++
      (Utf8.encode pattern ++ [0] ++ (Utf8.encode options ++ [0]))) ++ [0] =
        0x0B :: (Utf8.encode key ++ 0 ::
          (Utf8.encode pattern ++ [0] ++ (Utf8.encode options ++ [0]) ++ [0])) := by
    simp [Value.tag]
  simp only [decode?, content?_frameFields short, Option.bind_eq_bind, Option.bind_some, shape,
    readItems_element clean reads, readItems_end, fieldsValue?, if_neg not_code, if_neg not_scope,
    none, Item.value?, if_true]
  rfl

end TrafficReplay
