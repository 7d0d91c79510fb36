import TrafficReplay.Number.LittleEndian
import TrafficReplay.Number.Notation

namespace TrafficReplay

inductive Decimal128.Magnitude where
  | finite (coefficient : Nat) (exponent : Int)
  | infinity
  | nan
  | signalingNan
deriving DecidableEq, Repr

structure Decimal128 where
  negative : Bool
  magnitude : Decimal128.Magnitude
deriving DecidableEq, Repr

namespace Decimal128

def precision : Nat := 34

def leastExponent : Int := -6176

def greatestExponent : Int := 6111

def Magnitude.bits : Magnitude → Nat
  | .finite coefficient exponent => (exponent - leastExponent).toNat * 2 ^ 113 + coefficient
  | .infinity => 0x78 * 2 ^ 120
  | .nan => 0x7C * 2 ^ 120
  | .signalingNan => 0x7E * 2 ^ 120

def bits (x : Decimal128) : Nat := (if x.negative then 2 ^ 127 else 0) + x.magnitude.bits

def bytes (x : Decimal128) : List UInt8 := littleEndian 16 x.bits

def word? (word : String) : Option Magnitude :=
  if word = "nan" then some .nan
  else if word = "snan" then some .signalingNan
  else if word = "infinity" ∨ word = "inf" then some .infinity
  else none

structure Numeral where
  digits : List Char
  exponent : Int
deriving DecidableEq, Repr

namespace Numeral

/-- Sixteen bits hold the exponent, also on the way to its final value. -/
def checked (numeral : Numeral) : Option Numeral :=
  if -32768 ≤ numeral.exponent ∧ numeral.exponent ≤ 32767 then some numeral else none

def isZero (numeral : Numeral) : Bool := numeral.digits = ['0']

def read? (text : List Char) : Option Numeral := do
  let (mantissa, power) ←
    match Text.cutFirst? (· = 'e') text with
    | some (mantissa, power) => (Notation.integerOf? 16 power).map fun power => (mantissa, power)
    | none => some (text, 0)
  match Text.cutFirst? (· = '.') mantissa with
  | some (whole, part) => checked ⟨whole ++ part, power - part.length⟩
  | none => some ⟨mantissa, power⟩

/-- Leading zeros do not count, a lone zero apart. -/
def stripped (numeral : Numeral) : Numeral :=
  let digits := numeral.digits.dropWhile (· = '0')
  { numeral with
    digits := if digits.isEmpty && !numeral.digits.isEmpty then ['0'] else digits }

def drop? (numeral : Numeral) (count : Nat) : Option Numeral :=
  let kept := numeral.digits.length - count
  if numeral.digits.length < count ∨ !(numeral.digits.drop kept).all (· = '0') then none
  else checked ⟨numeral.digits.take kept, numeral.exponent + count⟩

def shortened? (numeral : Numeral) : Option Numeral :=
  numeral.drop? (numeral.digits.length - precision)

def raised? (numeral : Numeral) : Option Numeral :=
  if leastExponent ≤ numeral.exponent then some numeral
  else if numeral.isZero then some ⟨numeral.digits, leastExponent⟩
  else numeral.drop? (leastExponent - numeral.exponent).toNat

def lowered? (numeral : Numeral) : Option Numeral :=
  if numeral.exponent ≤ greatestExponent then some numeral
  else if numeral.isZero then some ⟨numeral.digits, greatestExponent⟩
  else
    let more := (numeral.exponent - greatestExponent).toNat
    if precision < numeral.digits.length + more then none
    else some ⟨numeral.digits ++ List.replicate more '0', greatestExponent⟩

def magnitude? (numeral : Numeral) : Option Magnitude := do
  let numeral ← numeral.stripped.shortened?
  let numeral ← numeral.raised?
  let numeral ← numeral.lowered?
  let coefficient ← Notation.natural? numeral.digits
  return .finite coefficient numeral.exponent

end Numeral

def ofText? (text : List Char) : Option Decimal128 :=
  let (negative, rest) := Notation.cutSign text
  let rest := rest.map Text.lowerAscii
  let magnitude := (word? (String.ofList rest)).orElse fun _ =>
    (Numeral.read? rest).bind Numeral.magnitude?
  magnitude.map fun magnitude => ⟨negative, magnitude⟩

end Decimal128

end TrafficReplay
