import TrafficReplay.Document.Encoding

namespace TrafficReplay

def int32At (bytes : List UInt8) : Int := (int32OfBytes (bytes.take 4)).toInt

def lengthField? (least : Nat) (bytes : List UInt8) : Option Nat :=
  if bytes.length < 4 then none
  else
    let length := int32At bytes
    if length < least then none else some length.toNat

def splitAtZero? : List UInt8 → Option (List UInt8 × List UInt8)
  | [] => none
  | 0 :: rest => some ([], rest)
  | byte :: rest => (splitAtZero? rest).map fun (head, tail) => (byte :: head, tail)

theorem splitAtZero?_length {bytes head tail : List UInt8}
    (split : splitAtZero? bytes = some (head, tail)) :
    head.length + tail.length + 1 = bytes.length := by
  fun_induction splitAtZero? bytes generalizing head tail with
  | case1 => cases split
  | case2 rest =>
    cases split
    simp
  | case3 byte rest nonzero ih =>
    obtain ⟨⟨innerHead, innerTail⟩, inner, pair⟩ := Option.map_eq_some_iff.mp split
    cases pair
    have total := ih inner
    simp only [List.length_cons]
    omega

def text? (bytes : List UInt8) : Option String := (Utf8.decode bytes).toOption

def readText? (bytes : List UInt8) : Option (String × List UInt8) := do
  let length ← lengthField? 1 bytes
  let body := bytes.drop 4
  if body.length < length then none
  else
    let content := body.take (length - 1)
    if (body.drop (length - 1)).head? = some 0 then
      let text ← text? content
      return (text, body.drop length)
    else none

def textSize? (bytes : List UInt8) : Option Nat := (lengthField? 1 bytes).map (4 + ·)

def valueSize? (tag : UInt8) (bytes : List UInt8) : Option Nat :=
  if tag = 0x01 ∨ tag = 0x09 ∨ tag = 0x11 ∨ tag = 0x12 then some 8
  else if tag = 0x02 ∨ tag = 0x0D ∨ tag = 0x0E then textSize? bytes
  else if tag = 0x03 ∨ tag = 0x04 then lengthField? 5 bytes
  else if tag = 0x05 then (lengthField? 0 bytes).map (5 + ·)
  else if tag = 0x06 ∨ tag = 0x0A ∨ tag = 0xFF ∨ tag = 0x7F then some 0
  else if tag = 0x07 then some 12
  else if tag = 0x08 then some 1
  else if tag = 0x0B then do
    let (pattern, rest) ← splitAtZero? bytes
    let (options, _) ← splitAtZero? rest
    return pattern.length + options.length + 2
  else if tag = 0x0C then (textSize? bytes).map (· + 12)
  else if tag = 0x0F then lengthField? 14 bytes
  else if tag = 0x10 then some 4
  else if tag = 0x13 then some 16
  else none

def inOrder (options : List Char) : List Char := options.mergeSort fun a b => decide (a ≤ b)

def readFlat? (tag : UInt8) (bytes : List UInt8) : Option Value :=
  if tag = 0x01 then some (.double ⟨UInt64.ofNat (ofLittleEndian bytes)⟩)
  else if tag = 0x02 then (readText? bytes).map fun (text, _) => .text text
  else if tag = 0x05 then
    match bytes.drop 4 with
    | [] => none
    | subtype :: content =>
      if subtype = 2 then
        if content.length < 4 ∨ int32At content ≠ content.length - 4 then none
        else some (.binary subtype (content.drop 4))
      else some (.binary subtype content)
  else if tag = 0x06 then some .undefined
  else if tag = 0x07 then some (.objectId bytes)
  else if tag = 0x08 then
    if bytes = [0] then some (.bool false) else if bytes = [1] then some (.bool true) else none
  else if tag = 0x09 then some (.date (int64OfBytes bytes))
  else if tag = 0x0A then some .null
  else if tag = 0x0B then do
    let (pattern, rest) ← splitAtZero? bytes
    let (options, _) ← splitAtZero? rest
    let pattern ← text? pattern
    let options ← text? options
    return .regex pattern (String.ofList (inOrder options.toList))
  else if tag = 0x0C then do
    let (namespaced, id) ← readText? bytes
    return .pointer namespaced id
  else if tag = 0x0D then (readText? bytes).map fun (text, _) => .code text
  else if tag = 0x0E then (readText? bytes).map fun (text, _) => .symbol text
  else if tag = 0x10 then some (.int32 (int32OfBytes bytes))
  else if tag = 0x11 then
    some (.timestamp (UInt32.ofNat (ofLittleEndian (bytes.drop 4)))
      (UInt32.ofNat (ofLittleEndian (bytes.take 4))))
  else if tag = 0x12 then some (.int64 (int64OfBytes bytes))
  else if tag = 0x13 then some (.decimal bytes)
  else if tag = 0xFF then some .minKey
  else if tag = 0x7F then some .maxKey
  else none

def content? (bytes : List UInt8) : Option (List UInt8) := do
  let length ← lengthField? 5 bytes
  if length = bytes.length ∧ bytes.getLast? = some 0 then return bytes.drop 4 else none

theorem content?_length {bytes content : List UInt8} (inner : content? bytes = some content) :
    content.length + 4 ≤ bytes.length := by
  simp only [content?, lengthField?, Option.bind_eq_bind] at inner
  split at inner
  · cases inner
  · split at inner
    · cases inner
    · rename_i long atLeast
      simp only [Option.bind_some] at inner
      split at inner
      · rename_i exact
        cases inner
        simp only [List.length_drop]
        omega
      · cases inner

/-- A value whose inner elements are apart. The keys of an array do not matter; elements that are
    not whole broke off before their end. -/
inductive Item where
  | flat (value : Value)
  | document (fields : List (String × Item)) (whole : Bool)
  | array (items : List Item) (whole : Bool)
  | scopedCode (source : String) (fields : List (String × Item)) (whole : Bool)

instance : Inhabited Item := ⟨.flat .null⟩

inductive Opened where
  | flat (value : Value)
  | document (content : List UInt8)
  | array (content : List UInt8)
  | scopedCode (source : String) (content : List UInt8)

namespace Opened

def inner : Opened → List UInt8
  | .flat _ => []
  | .document content | .array content | .scopedCode _ content => content

def close : Opened → List (String × Item) × Bool → Item
  | .flat value, _ => .flat value
  | .document _, (fields, whole) => .document fields whole
  | .array _, (fields, whole) => .array (fields.map Prod.snd) whole
  | .scopedCode source _, (fields, whole) => .scopedCode source fields whole

end Opened

def openValue? (tag : UInt8) (bytes : List UInt8) : Option Opened :=
  if tag = 0x03 then (content? bytes).map .document
  else if tag = 0x04 then (content? bytes).map .array
  else if tag = 0x0F then do
    let (source, scope) ← readText? (bytes.drop 4)
    let content ← content? scope
    return .scopedCode source content
  else (readFlat? tag bytes).map .flat

theorem readText?_length {bytes rest : List UInt8} {text : String}
    (read : readText? bytes = some (text, rest)) : rest.length ≤ bytes.length := by
  simp only [readText?, Option.bind_eq_bind] at read
  obtain ⟨length, _, read⟩ := Option.bind_eq_some_iff.mp read
  split at read
  · cases read
  · split at read
    · obtain ⟨_, _, read⟩ := Option.bind_eq_some_iff.mp read
      cases read
      simp only [List.length_drop]
      omega
    · cases read

theorem openValue?_length {tag : UInt8} {bytes : List UInt8} {opened : Opened}
    (read : openValue? tag bytes = some opened) : opened.inner.length ≤ bytes.length := by
  unfold openValue? at read
  split at read
  · obtain ⟨content, inner, rfl⟩ := Option.map_eq_some_iff.mp read
    have bound := content?_length inner
    simp only [Opened.inner]
    omega
  · split at read
    · obtain ⟨content, inner, rfl⟩ := Option.map_eq_some_iff.mp read
      have bound := content?_length inner
      simp only [Opened.inner]
      omega
    · split at read
      · simp only [Option.bind_eq_bind] at read
        obtain ⟨⟨source, scope⟩, text, read⟩ := Option.bind_eq_some_iff.mp read
        obtain ⟨content, inner, read⟩ := Option.bind_eq_some_iff.mp read
        cases read
        have bound : content.length + 4 ≤ scope.length := content?_length inner
        have shorter := readText?_length text
        simp only [List.length_drop] at shorter
        simp only [Opened.inner]
        omega
      · obtain ⟨value, _, rfl⟩ := Option.map_eq_some_iff.mp read
        simp only [Opened.inner, List.length_nil]
        omega

def readItems (bytes : List UInt8) : List (String × Item) × Bool :=
  match bytes with
  | [] => ([], false)
  | [last] => ([], last = 0)
  | tag :: bytes =>
    match _split : splitAtZero? bytes with
    | none => ([], false)
    | some (key, rest) =>
      match text? key, valueSize? tag rest with
      | some key, some size =>
        if rest.length < size then ([], false)
        else
          match _read : openValue? tag (rest.take size) with
          | none => ([], false)
          | some opened =>
            let (others, whole) := readItems (rest.drop size)
            ((key, opened.close (readItems opened.inner)) :: others, whole)
      | _, _ => ([], false)
termination_by bytes.length
decreasing_by
  · have total := splitAtZero?_length _split
    simp only [List.length_cons, List.length_drop]
    omega
  · have total := splitAtZero?_length _split
    have bound := openValue?_length _read
    simp only [List.length_take] at bound
    simp only [List.length_cons]
    omega

end TrafficReplay
