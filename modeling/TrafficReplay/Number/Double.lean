-- A power is that of the core library, also where another one is in scope.
attribute [instance(1100), default_instance 10001] instPowNat

namespace TrafficReplay

/-- The nearest whole number to a quotient; a tie goes to the even one. -/
def roundHalfEven (num den : Nat) : Nat :=
  let floor := num / den
  let rest := 2 * (num % den)
  if rest < den then floor
  else if den < rest then floor + 1
  else floor + floor % 2

structure Double where
  bits : UInt64
deriving DecidableEq, Repr

namespace Double

def exponentField (x : Double) : Nat := x.bits.toNat / 2 ^ 52 % 2048

def fraction (x : Double) : Nat := x.bits.toNat % 2 ^ 52

def isNegative (x : Double) : Bool := decide (2 ^ 63 ≤ x.bits.toNat)

def isFinite (x : Double) : Bool := x.exponentField < 2047

def isNaN (x : Double) : Bool := x.exponentField = 2047 && x.fraction ≠ 0

def isZero (x : Double) : Bool := x.bits.toNat % 2 ^ 63 = 0

/-- Greater than zero: false of both zeros and of NaN. -/
def isPositive (x : Double) : Bool := !x.isNegative && !x.isNaN && !x.isZero

def isBelowZero (x : Double) : Bool := x.isNegative && !x.isNaN && !x.isZero

def equal (x y : Double) : Bool :=
  !x.isNaN && !y.isNaN && (x.bits = y.bits || x.isZero && y.isZero)

def significand (x : Double) : Nat :=
  if x.exponentField = 0 then x.fraction else x.fraction + 2 ^ 52

def scale (x : Double) : Nat := x.exponentField - 1

def units (x : Double) : Nat := x.significand * 2 ^ x.scale

def unit : Nat := 2 ^ 1074

def infinity : Double := ⟨0x7FF0000000000000⟩

def nan : Double := ⟨0x7FF8000000000000⟩

def one : Double := ⟨0x3FF0000000000000⟩

def zero : Double := ⟨0⟩

def neg (x : Double) : Double := ⟨x.bits ^^^ 0x8000000000000000⟩

def ofRatio (num den : Nat) : Double :=
  let floor := num * unit / den
  let shift := if floor < 2 ^ 53 then 0 else Nat.log2 floor - 52
  let rounded := roundHalfEven (num * unit) (den * 2 ^ shift)
  let bits := shift * 2 ^ 52 + rounded
  if bits < 2047 * 2 ^ 52 then ⟨UInt64.ofNat bits⟩ else infinity

def ofNat (n : Nat) : Double := ofRatio n 1

/-- The double nearest to `digits * 10 ^ exponent`; exponents beyond any double are cut short. -/
def ofDecimal (digits : Nat) (exponent : Int) : Double :=
  if digits = 0 then zero
  else if 0 ≤ exponent then ofRatio (digits * 10 ^ (min exponent.toNat 400)) 1
  else ofRatio digits (10 ^ (min (-exponent).toNat (400 + (Nat.toDigits 10 digits).length)))

def addMagnitudes (x y : Double) : Double := ofRatio (x.units + y.units) unit

def divMagnitudes (x y : Double) : Double := ofRatio x.units y.units

end Double

end TrafficReplay
