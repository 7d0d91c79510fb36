import TrafficReplay.Number.Double
import TrafficReplay.Text.Cut

namespace TrafficReplay.Notation

def isDigit (c : Char) : Bool := '0' ≤ c && c ≤ '9'

def naturalFrom (read : Nat) : List Char → Option Nat
  | [] => some read
  | c :: rest => if isDigit c then naturalFrom (10 * read + (c.toNat - '0'.toNat)) rest else none

def natural? (text : List Char) : Option Nat := if text.isEmpty then none else naturalFrom 0 text

def cutSign (text : List Char) : Bool × List Char :=
  match text with
  | '-' :: rest => (true, rest)
  | '+' :: rest => (false, rest)
  | _ => (false, text)

def integer? (text : List Char) : Option Int :=
  let (negative, digits) := cutSign text
  (natural? digits).map fun n => if negative then -n else n

def integerOf? (bits : Nat) (text : List Char) : Option Int := do
  let n ← integer? text
  if -(2 ^ (bits - 1) : Int) ≤ n ∧ n < 2 ^ (bits - 1) then some n else none

def isExponentMark (c : Char) : Bool := c = 'e' || c = 'E'

def word? (text : List Char) : Option Double :=
  let word := String.ofList (text.map Text.lowerAscii)
  if word = "inf" ∨ word = "infinity" then some .infinity
  else if word = "nan" then some .nan
  else none

def scientific? (text : List Char) : Option Double := do
  let (mantissa, power) ←
    match Text.cutFirst? isExponentMark text with
    | some (mantissa, power) => (integer? power).map fun power => (mantissa, power)
    | none => some (text, 0)
  let (whole, part) := (Text.cutFirst? (· = '.') mantissa).getD (mantissa, [])
  let digits ← natural? (whole ++ part)
  return .ofDecimal digits (power - part.length)

def double? (text : List Char) : Option Double :=
  let (negative, magnitude) := cutSign text
  ((word? magnitude).orElse fun _ => scientific? magnitude).map fun x =>
    if negative then x.neg else x

end TrafficReplay.Notation
