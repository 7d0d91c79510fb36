import TrafficReplay.Text.Utf8

namespace TrafficReplay.Percent

def hexValue? (byte : UInt8) : Option UInt8 :=
  if 0x30 ≤ byte ∧ byte ≤ 0x39 then some (byte - 0x30)
  else if 0x41 ≤ byte ∧ byte ≤ 0x46 then some (byte - 0x37)
  else if 0x61 ≤ byte ∧ byte ≤ 0x66 then some (byte - 0x57)
  else none

def decodeBytes : List UInt8 → List UInt8
  | [] => []
  | [a] => [a]
  | [a, b] => [a, b]
  | a :: b :: c :: rest =>
    if a = 0x25 then
      match hexValue? b, hexValue? c with
      | some high, some low => (16 * high + low) :: decodeBytes rest
      | _, _ => a :: decodeBytes (b :: c :: rest)
    else a :: decodeBytes (b :: c :: rest)

def decode (text : String) : Except Utf8.Fault String :=
  Utf8.decode (decodeBytes (Utf8.encode text))

def isPlain (byte : UInt8) : Bool :=
  (0x30 ≤ byte && byte ≤ 0x39) || (0x41 ≤ byte && byte ≤ 0x5A) || (0x61 ≤ byte && byte ≤ 0x7A) ||
    byte = 0x2D || byte = 0x2E || byte = 0x5F || byte = 0x7E

def hexDigit (n : UInt8) : UInt8 := if n < 10 then 0x30 + n else 0x37 + n

def encodeByte (byte : UInt8) : List UInt8 :=
  if isPlain byte then [byte] else [0x25, hexDigit (byte / 16), hexDigit (byte % 16)]

def encode (text : String) : String :=
  String.ofList (((Utf8.encode text).flatMap encodeByte).map fun byte => Char.ofNat byte.toNat)

end TrafficReplay.Percent
