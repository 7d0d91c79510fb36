import TrafficReplay.Number.Double

namespace TrafficReplay.Decimal

structure Scientific where
  digits : Nat
  exponent : Int
deriving DecidableEq, Repr

/-- Bounds of the reals that round to a finite nonzero magnitude, in quarter units. They belong
    to the interval exactly when the significand is even; the gap to the next smaller double is
    half as wide below a power of two. -/
def roundingBounds (x : Double) : Nat × Nat :=
  let gap := 2 ^ x.scale
  let below := if x.fraction = 0 ∧ 1 < x.exponentField then gap else 2 * gap
  (4 * x.units - below, 4 * x.units + 2 * gap)

def readsBack (x : Double) (num den : Nat) : Bool :=
  let (low, high) := roundingBounds x
  if x.significand % 2 = 0 then low * den ≤ num && num ≤ high * den
  else low * den < num && num < high * den

def quarterUnits (value : Scientific) : Nat × Nat :=
  if 0 ≤ value.exponent then (value.digits * 10 ^ value.exponent.toNat * (4 * Double.unit), 1)
  else (value.digits * (4 * Double.unit), 10 ^ (-value.exponent).toNat)

def distance (a b : Nat) : Nat := (a - b) + (b - a)

/-- The point nearest to `x` on the grid of multiples of `10 ^ exponent` that reads back. -/
def onGrid? (x : Double) (exponent : Int) : Option Scientific :=
  let (num, den) :=
    if 0 ≤ exponent then (x.units, Double.unit * 10 ^ exponent.toNat)
    else (x.units * 10 ^ (-exponent).toNat, Double.unit)
  let floor := num / den
  let accepted := [floor, floor + 1].filter fun digits =>
    let (n, d) := quarterUnits ⟨digits, exponent⟩
    readsBack x n d
  match accepted with
  | [] => none
  | [digits] => some ⟨digits, exponent⟩
  | _ => some ⟨roundHalfEven num den, exponent⟩

def leadingExponent (x : Double) : Int :=
  let whole := x.units / Double.unit
  if 0 < whole then ((Nat.toDigits 10 whole).length : Int) - 1
  else
    let reciprocal := Double.unit / x.units
    -- `10 ^ -k ≤ x` holds first for the digit count of the reciprocal or one more
    let count := (Nat.toDigits 10 reciprocal).length
    if Double.unit ≤ x.units * 10 ^ (count - 1) then 1 - (count : Int)
    else - (count : Int)

def shortestFrom (x : Double) (leading : Int) : (more : Nat) → (count : Nat) → Scientific
  | 0, count => ⟨0, leading - count + 1⟩
  | more + 1, count =>
    match onGrid? x (leading - count + 1) with
    | some value => value
    | none => shortestFrom x leading more (count + 1)

/-- Seventeen significant digits always suffice. -/
def shortest (x : Double) : Scientific := shortestFrom x (leadingExponent x) 17 1

def zeros (count : Nat) : String := String.ofList (List.replicate count '0')

def Scientific.positional (value : Scientific) : String :=
  let digits := toString value.digits
  if 0 ≤ value.exponent then digits ++ zeros value.exponent.toNat
  else
    let places := (-value.exponent).toNat
    let padded := zeros (places + 1 - digits.length) ++ digits
    let whole := String.ofList (padded.toList.take (padded.length - places))
    let part := String.ofList (padded.toList.drop (padded.length - places))
    whole ++ "." ++ part

end TrafficReplay.Decimal

namespace TrafficReplay

/-- Text without an exponent: a whole number shows no point, and a sign stands before every
    negative number but NaN. -/
def Double.positional (x : Double) : String :=
  if x.isNaN then "NaN"
  else
    let magnitude :=
      if !x.isFinite then "inf"
      else if x.isZero then "0"
      else (Decimal.shortest x).positional
    if x.isNegative then "-" ++ magnitude else magnitude

end TrafficReplay
