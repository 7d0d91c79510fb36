import TrafficReplay.Calendar
import TrafficReplay.Document.Item
import TrafficReplay.Number.Decimal128
import TrafficReplay.Text.Base64
import TrafficReplay.Text.Hex

namespace TrafficReplay

namespace Item

def text? : Item → Option String
  | .flat (.text value) => some value
  | .flat (.binary 0 bytes) => TrafficReplay.text? bytes
  | _ => none

def chars? (item : Item) : Option (List Char) := item.text?.map String.toList

def integer? : Item → Option Int
  | .flat (.int32 value) => some value.toInt
  | .flat (.int64 value) => some value.toInt
  | _ => none

def naturalBelow? (bound : Nat) (item : Item) : Option Nat := do
  let n ← item.integer?
  if 0 ≤ n ∧ n < bound then some n.toNat else none

def single? (name : String) : Item → Option Item
  | .document [(key, item)] whole => if whole ∧ key = name then some item else none
  | .array (item :: _) _ => some item
  | _ => none

def pair? (first second : String) : Item → Option (Item × Item)
  | .document fields whole => do
    if !whole ∨ fields.length ≠ 2 then none
    return (← fields.lookup first, ← fields.lookup second)
  | .array (a :: b :: _) _ => some (a, b)
  | _ => none

mutual

/-- Whether all elements inside could be read. -/
def intact : Item → Bool
  | .flat _ => true
  | .document fields whole => whole && fieldsIntact fields
  | .array items whole => whole && itemsIntact items
  | .scopedCode _ fields whole => whole && fieldsIntact fields

def fieldsIntact : List (String × Item) → Bool
  | [] => true
  | (_, item) :: rest => item.intact && fieldsIntact rest

def itemsIntact : List Item → Bool
  | [] => true
  | item :: rest => item.intact && itemsIntact rest

end

end Item

def idBytes? (text : String) : Option (List UInt8) := do
  let bytes ← Hex.decode? text
  if bytes.length = 12 then some bytes else none

def hyphenatedBytes? (text : List Char) : Option (List UInt8) :=
  let groups := Text.pieces (· = '-') text
  if groups.map List.length = [8, 4, 4, 4, 12] then Hex.decodeChars [] groups.flatten else none

/-- Sixteen bytes in hexadecimal digits, with or without hyphens; hyphenated digits may stand in
    braces or after the name of their kind. -/
def uuidBytes? (text : List Char) : Option (List UInt8) :=
  let kind := "urn:uuid:".toList
  if text.length = 32 then Hex.decodeChars [] text
  else
    match text with
    | '\x7b' :: rest => if rest.getLast? = some '\x7d' then hyphenatedBytes? rest.dropLast else none
    | _ => hyphenatedBytes? (if kind.isPrefixOf text then text.drop kind.length else text)

namespace Item

def objectId? : Item → Option (List UInt8)
  | .flat (.binary 0 bytes) => if bytes.length = 12 then some bytes else none
  | .flat (.text value) => idBytes? value
  | _ => none

def binary? (item : Item) : Option Value := do
  let (content, subtype) ← item.pair? "base64" "subType"
  let bytes ← Base64.decode? (← content.chars?)
  match ← Hex.decodeChars [] (← subtype.chars?) with
  | [subtype] => some (.binary subtype bytes)
  | _ => none

def timestamp? (item : Item) : Option Value := do
  let (time, increment) ← item.pair? "t" "i"
  let time ← time.naturalBelow? (2 ^ 32)
  let increment ← increment.naturalBelow? (2 ^ 32)
  return .timestamp (UInt32.ofNat time) (UInt32.ofNat increment)

def regex? (item : Item) : Option Value := do
  let (pattern, options) ← item.pair? "pattern" "options"
  return .regex (← pattern.text?) (String.ofList (inOrder (← options.chars?)))

def reference? : Item → Option (List UInt8)
  | .flat (.objectId bytes) => some bytes
  | item => do idBytes? (← (← item.single? "$oid").text?)

def pointer? (item : Item) : Option Value := do
  let (namespaced, id) ← item.pair? "$ref" "$id"
  return .pointer (← namespaced.text?) (← id.reference?)

def writtenInt64? (item : Item) : Option Int := do Notation.integerOf? 64 (← item.chars?)

/-- Milliseconds as a number, as a written number in a form of its own, or as a written moment. -/
def date? (item : Item) : Option Int :=
  if !item.intact then none
  else
    match item with
    | .document [(key, inner)] _ => if key = "$numberLong" then inner.writtenInt64? else none
    | .array [inner] _ => inner.writtenInt64?
    | .flat (.int32 value) => some value.toInt
    | .flat (.int64 value) => some value.toInt
    | item => item.chars?.bind Calendar.millis?

def bytes? : Item → Option (List UInt8)
  | .flat (.binary 0 bytes) => some bytes
  | .flat (.text value) => some (Utf8.encode value)
  | .array items whole =>
    if whole then items.mapM fun item => (item.naturalBelow? 256).map UInt8.ofNat else none
  | _ => none

def decimalBytes? (item : Item) : Option Value := do
  let bytes ← item.bytes?
  if bytes.length = 16 then some (.decimal bytes) else none

end Item

inductive Mark where
  | objectId
  | symbol
  | int32
  | int64
  | double
  | binary
  | uuid
  | timestamp
  | regex
  | pointer
  | date
  | minKey
  | maxKey
  | undefined
  | decimal
  | decimalBytes
deriving DecidableEq, Repr

namespace Mark

def all : List Mark :=
  [.objectId, .symbol, .int32, .int64, .double, .binary, .uuid, .timestamp, .regex, .pointer,
    .date, .minKey, .maxKey, .undefined, .decimal, .decimalBytes]

def key : Mark → String
  | .objectId => "$oid"
  | .symbol => "$symbol"
  | .int32 => "$numberInt"
  | .int64 => "$numberLong"
  | .double => "$numberDouble"
  | .binary => "$binary"
  | .uuid => "$uuid"
  | .timestamp => "$timestamp"
  | .regex => "$regularExpression"
  | .pointer => "$dbPointer"
  | .date => "$date"
  | .minKey => "$minKey"
  | .maxKey => "$maxKey"
  | .undefined => "$undefined"
  | .decimal => "$numberDecimal"
  | .decimalBytes => "$numberDecimalBytes"

def ofKey? (key : String) : Option Mark := all.find? fun mark => mark.key = key

def value? (item : Item) : Mark → Option Value
  | .objectId => item.objectId?.map .objectId
  | .symbol => item.text?.map .symbol
  | .int32 => (item.chars?.bind (Notation.integerOf? 32)).map fun n => .int32 (Int32.ofInt n)
  | .int64 => item.writtenInt64?.map fun n => .int64 (Int64.ofInt n)
  | .double => (item.chars?.bind Notation.double?).map .double
  | .binary => item.binary?
  | .uuid => (item.chars?.bind uuidBytes?).map (.binary 4)
  | .timestamp => item.timestamp?
  | .regex => item.regex?
  | .pointer => item.pointer?
  | .date => item.date?.map fun millis => .date (Int64.ofInt millis)
  | .minKey => if item.integer? = some 1 then some .minKey else none
  | .maxKey => if item.integer? = some 1 then some .maxKey else none
  | .undefined =>
    match item with
    | .flat (.bool true) => some .undefined
    | _ => none
  | .decimal => (item.chars?.bind Decimal128.ofText?).map fun x => .decimal x.bytes
  | .decimalBytes => item.decimalBytes?

end Mark

end TrafficReplay
