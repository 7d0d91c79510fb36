import TrafficReplay.Document.Basic
import TrafficReplay.Number.LittleEndian
import TrafficReplay.Text.Utf8

namespace TrafficReplay

namespace Value

def tag : Value → UInt8
  | .double _ => 0x01
  | .text _ => 0x02
  | .document _ => 0x03
  | .array _ => 0x04
  | .binary _ _ => 0x05
  | .undefined => 0x06
  | .objectId _ => 0x07
  | .bool _ => 0x08
  | .date _ => 0x09
  | .null => 0x0A
  | .regex _ _ => 0x0B
  | .pointer _ _ => 0x0C
  | .code _ => 0x0D
  | .symbol _ => 0x0E
  | .scopedCode _ _ => 0x0F
  | .int32 _ => 0x10
  | .timestamp _ _ => 0x11
  | .int64 _ => 0x12
  | .decimal _ => 0x13
  | .minKey => 0xFF
  | .maxKey => 0x7F

end Value

def encodeCString (text : String) : Option (List UInt8) :=
  if text.toList.contains '\x00' then none else some (Utf8.encode text ++ [0])

def encodeText (text : String) : List UInt8 :=
  let bytes := Utf8.encode text
  littleEndian 4 (bytes.length + 1) ++ bytes ++ [0]

def frameFields (content : List UInt8) : List UInt8 :=
  littleEndian 4 (content.length + 5) ++ content ++ [0]

mutual

def Value.encode? : Value → Option (List UInt8)
  | .double value => some (littleEndian 8 value.bits.toNat)
  | .text value => some (encodeText value)
  | .document fields => (encodeFields fields).map frameFields
  | .array items => (encodeItems 0 items).map frameFields
  | .binary subtype bytes =>
    if subtype = 2 then
      some (littleEndian 4 (bytes.length + 4) ++ [subtype] ++ littleEndian 4 bytes.length ++ bytes)
    else some (littleEndian 4 bytes.length ++ [subtype] ++ bytes)
  | .undefined => some []
  | .objectId bytes => some bytes
  | .bool value => some [if value then 1 else 0]
  | .date millis => some (int64Bytes millis)
  | .null => some []
  | .regex pattern options => do
    let pattern ← encodeCString pattern
    let options ← encodeCString options
    return pattern ++ options
  | .pointer namespaced id => some (encodeText namespaced ++ id)
  | .code source => some (encodeText source)
  | .symbol name => some (encodeText name)
  | .scopedCode source scope => do
    let scope ← (encodeFields scope).map frameFields
    let source := encodeText source
    return littleEndian 4 (4 + source.length + scope.length) ++ source ++ scope
  | .int32 value => some (int32Bytes value)
  | .timestamp time increment =>
    some (littleEndian 4 increment.toNat ++ littleEndian 4 time.toNat)
  | .int64 value => some (int64Bytes value)
  | .decimal bytes => some bytes
  | .minKey => some []
  | .maxKey => some []

def encodeFields : List (String × Value) → Option (List UInt8)
  | [] => some []
  | (key, value) :: rest => do
    let key ← encodeCString key
    let body ← value.encode?
    let rest ← encodeFields rest
    return value.tag :: (key ++ body ++ rest)

def encodeItems : Nat → List Value → Option (List UInt8)
  | _, [] => some []
  | position, value :: rest => do
    let key ← encodeCString (toString position)
    let body ← value.encode?
    let rest ← encodeItems (position + 1) rest
    return value.tag :: (key ++ body ++ rest)

end

def Document.encode? (doc : Document) : Option (List UInt8) := (encodeFields doc).map frameFields

end TrafficReplay
