import TrafficReplay.Number.Notation
import TrafficReplay.Text.Hex
import TrafficReplay.Text.Json

namespace TrafficReplay.Json

abbrev Reader (α : Type) := List Char → Option (α × List Char)

def isBlank (c : Char) : Bool := c = ' ' || c = '\t' || c = '\n' || c = '\r'

def skipBlank (text : List Char) : List Char := text.dropWhile isBlank

def unit? : Reader Nat
  | a :: b :: c :: d :: rest => do
    let a ← Hex.value? a
    let b ← Hex.value? b
    let c ← Hex.value? c
    let d ← Hex.value? d
    return (4096 * a + 256 * b + 16 * c + d, rest)
  | _ => none

/-- A character by its number, or by two numbers where it is beyond the reach of one. Half of such a
    pair is no character. -/
def codePoint? (text : List Char) : Option (Char × List Char) := do
  let (unit, rest) ← unit? text
  if 0xD800 ≤ unit ∧ unit < 0xDC00 then
    match rest with
    | '\\' :: 'u' :: rest =>
      let (low, rest) ← unit? rest
      if 0xDC00 ≤ low ∧ low < 0xE000 then
        some (Char.ofNat (0x10000 + (unit - 0xD800) * 0x400 + (low - 0xDC00)), rest)
      else none
    | _ => none
  else if 0xDC00 ≤ unit ∧ unit < 0xE000 then none
  else some (Char.ofNat unit, rest)

def escape? : Reader Char
  | '"' :: rest => some ('"', rest)
  | '\\' :: rest => some ('\\', rest)
  | '/' :: rest => some ('/', rest)
  | 'b' :: rest => some ('\x08', rest)
  | 'f' :: rest => some ('\x0c', rest)
  | 'n' :: rest => some ('\n', rest)
  | 'r' :: rest => some ('\r', rest)
  | 't' :: rest => some ('\t', rest)
  | 'u' :: rest => codePoint? rest
  | _ => none

def content? : (fuel : Nat) → Reader (List Char)
  | 0, _ => none
  | _ + 1, [] => none
  | fuel + 1, c :: rest =>
    if c = '"' then some ([], rest)
    else if c = '\\' then do
      let (escaped, rest) ← escape? rest
      (content? fuel rest).map fun (chars, rest) => (escaped :: chars, rest)
    else if c.toNat < 0x20 then none
    else (content? fuel rest).map fun (chars, rest) => (c :: chars, rest)

def quoted? : Reader String
  | '"' :: rest => (content? rest.length rest).map fun (chars, rest) => (String.ofList chars, rest)
  | _ => none

def digits? (text : List Char) : Option (List Char × List Char) :=
  let digits := text.takeWhile Char.isDigit
  if digits.isEmpty then none else some (digits, text.dropWhile Char.isDigit)

def whole? (text : List Char) : Option (List Char × List Char) := do
  let (digits, rest) ← digits? text
  if digits.head? = some '0' ∧ digits ≠ ['0'] then none else some (digits, rest)

def fraction? : Reader (List Char)
  | '.' :: rest => digits? rest
  | chars => some ([], chars)

def signed (negative : Bool) (magnitude : Nat) : Int := if negative then -magnitude else magnitude

def power? : Reader (Option Int)
  | [] => some (none, [])
  | c :: rest =>
    if Notation.isExponentMark c then
      let (negative, rest) := Notation.cutSign rest
      (digits? rest).map fun (digits, rest) =>
        (some (signed negative (Nat.ofDigitChars 10 digits 0)), rest)
    else some (none, c :: rest)

def magnitude? (negative : Bool) (text : List Char) : Option (Json × List Char) := do
  let (whole, rest) ← whole? text
  let (part, rest) ← fraction? rest
  let (power, rest) ← power? rest
  let mantissa := signed negative (Nat.ofDigitChars 10 (whole ++ part) 0)
  if part.isEmpty && power.isNone then some (.int mantissa, rest)
  else some (.decimal mantissa (power.getD 0 - part.length), rest)

def number? : Reader Json
  | '-' :: rest => magnitude? true rest
  | chars => magnitude? false chars

def word? (word : List Char) (value : Json) (text : List Char) : Option (Json × List Char) :=
  if word.isPrefixOf text then some (value, text.drop word.length) else none

def listed? {α : Type} (element : Reader α) (close : Char) : (fuel : Nat) → Reader (List α)
  | 0, _ => none
  | fuel + 1, chars => do
    let (first, rest) ← element chars
    match skipBlank rest with
    | [] => none
    | c :: rest =>
      if c = ',' then
        (listed? element close fuel rest).map fun (others, rest) => (first :: others, rest)
      else if c = close then some ([first], rest)
      else none

def enclosed? {α : Type} (element : Reader α) (close : Char) (text : List Char) :
    Option (List α × List Char) :=
  match skipBlank text with
  | [] => none
  | c :: rest =>
    if c = close then some ([], rest) else listed? element close text.length (c :: rest)

def field? (value : Reader Json) (text : List Char) : Option ((String × Json) × List Char) := do
  let (key, rest) ← quoted? (skipBlank text)
  match skipBlank rest with
  | ':' :: rest => (value rest).map fun (value, rest) => ((key, value), rest)
  | _ => none

def value? : (fuel : Nat) → Reader Json
  | 0, _ => none
  | fuel + 1, chars =>
    match skipBlank chars with
    | [] => none
    | c :: rest =>
      if c = '\x7b' then
        (enclosed? (field? (value? fuel)) '\x7d' rest).map fun (fields, rest) =>
          (.object fields, rest)
      else if c = '[' then
        (enclosed? (value? fuel) ']' rest).map fun (items, rest) => (.array items, rest)
      else if c = '"' then (quoted? (c :: rest)).map fun (content, rest) => (.text content, rest)
      else if c = 'n' then word? ['u', 'l', 'l'] .null rest
      else if c = 't' then word? ['r', 'u', 'e'] (.bool true) rest
      else if c = 'f' then word? ['a', 'l', 's', 'e'] (.bool false) rest
      else number? (c :: rest)

def read? (text : List Char) : Option Json := do
  let (value, rest) ← value? text.length text
  if (skipBlank rest).isEmpty then some value else none

def readFields? (text : List Char) : Option (List (String × Json)) :=
  match read? text with
  | some (.object fields) => some fields
  | _ => none

end TrafficReplay.Json
