namespace TrafficReplay.Hex

def digit (n : Nat) : Char :=
  if n < 10 then Char.ofNat ('0'.toNat + n) else Char.ofNat ('a'.toNat + n - 10)

def value? (c : Char) : Option Nat :=
  if '0' ≤ c ∧ c ≤ '9' then some (c.toNat - '0'.toNat)
  else if 'a' ≤ c ∧ c ≤ 'f' then some (c.toNat - 'a'.toNat + 10)
  else if 'A' ≤ c ∧ c ≤ 'F' then some (c.toNat - 'A'.toNat + 10)
  else none

def encodeByte (byte : UInt8) : List Char :=
  [digit (byte.toNat / 16), digit (byte.toNat % 16)]

def encode (bytes : List UInt8) : String := String.ofList (bytes.flatMap encodeByte)

/-- Bytes read so far come in reverse. -/
def decodeChars (read : List UInt8) : List Char → Option (List UInt8)
  | [] => some read.reverse
  | a :: b :: rest =>
    match value? a, value? b with
    | some high, some low => decodeChars (UInt8.ofNat (16 * high + low) :: read) rest
    | _, _ => none
  | [_] => none

def decode? (text : String) : Option (List UInt8) := decodeChars [] text.toList

end TrafficReplay.Hex
