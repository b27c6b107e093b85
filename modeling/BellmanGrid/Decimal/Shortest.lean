import BellmanGrid.Number.Double

/-!
The fewest decimal digits that read back as a given double.

A decimal reads back when it lies in the interval of numbers that round to the double.  For one,
two, … seventeen digits the two neighbours of the exact value on that decimal grid are tried; the
first grid with a hit decides, and of two hits the nearer one, an exact tie going to the even digit.
-/

namespace BellmanGrid.Decimal

/-- A decimal magnitude `digits · 10 ^ exponent`. -/
structure Digits where
  digits : Nat
  exponent : Int
deriving Repr, DecidableEq

def width (value : Nat) : Nat :=
  (Nat.toDigits 10 value).length

/-- The exponent of ten of the leading digit of a positive fraction. -/
def leadingExponent (numerator denominator : Nat) : Int :=
  if denominator ≤ numerator then (width (numerator / denominator) : Int) - 1
  else
    let shift := width denominator - width numerator
    if denominator ≤ numerator * Nat.pow 10 shift then -(shift : Int) else -(shift : Int) - 1

/-- `numerator / denominator` in units of `10 ^ exponent`, as a fraction. -/
def inUnits (numerator denominator : Nat) (exponent : Int) : Nat × Nat :=
  (numerator * Nat.pow 10 (-exponent).toNat, denominator * Nat.pow 10 exponent.toNat)

/-- The interval of numbers that round to a double, in quarters of its unit, with its ends when the
significand is even. -/
structure Interval where
  lower : Nat
  upper : Nat
  closed : Bool

/-- Below a power of two the next double is half as far away as above it. -/
def Interval.ofDouble (value : FiniteDouble) : Interval :=
  let below := if value.significand = Nat.pow 2 52 ∧ -1074 < value.exponent then 1 else 2
  ⟨4 * value.significand - below, 4 * value.significand + 2, value.significand % 2 = 0⟩

/-- Does `digits · 10 ^ exponent` round to the double? -/
def Interval.holds (interval : Interval) (binaryExponent : Int) (candidate : Digits) : Bool :=
  let quarter := binaryExponent - 2
  let value := candidate.digits * Nat.pow 10 candidate.exponent.toNat * Nat.pow 2 (-quarter).toNat
  let unit := Nat.pow 2 quarter.toNat * Nat.pow 10 (-candidate.exponent).toNat
  let lower := interval.lower * unit
  let upper := interval.upper * unit
  if interval.closed then lower ≤ value ∧ value ≤ upper else lower < value ∧ value < upper

/-- The candidate with the given number of digits, if one of the two neighbours reads back. -/
def candidate? (value : FiniteDouble) (leading : Int) (count : Nat) : Option Digits :=
  let exponent := leading - count + 1
  let (numerator, denominator) := inUnits value.fraction.1 value.fraction.2 exponent
  let below : Digits := ⟨numerator / denominator, exponent⟩
  let above : Digits := ⟨numerator / denominator + 1, exponent⟩
  let interval := Interval.ofDouble value
  match interval.holds value.exponent below, interval.holds value.exponent above with
  | true, true => some ⟨roundQuotient numerator denominator, exponent⟩
  | true, false => some below
  | false, true => some above
  | false, false => none

/-- Drops the zeros at the end of the digits; `fuel` bounds their number. -/
def stripZeros : (fuel : Nat) → Digits → Digits
  | 0, value => value
  | fuel + 1, value =>
      if value.digits ≠ 0 ∧ value.digits % 10 = 0 then
        stripZeros fuel ⟨value.digits / 10, value.exponent + 1⟩
      else value

/-- The shortest digits of a nonzero magnitude.  Seventeen digits always read back. -/
def shortest (value : FiniteDouble) : Digits :=
  let leading := leadingExponent value.fraction.1 value.fraction.2
  match (List.range 17).findSome? (fun count => candidate? value leading (count + 1)) with
  | some found => stripZeros 20 found
  | none => ⟨0, 0⟩

end BellmanGrid.Decimal
