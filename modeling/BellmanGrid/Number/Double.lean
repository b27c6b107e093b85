/-!
Finite doubles as exact binary fractions.

`Reading.ofFloat` takes a double apart, and `nearest` puts together the double closest to a given
fraction.  Everything between the two is arithmetic on natural numbers, so a statement about
rounding or about printed digits never has to mention a floating-point operation.
-/

namespace BellmanGrid

/-- The number `± significand · 2 ^ exponent`; the sign of a zero is kept. -/
structure FiniteDouble where
  negative : Bool
  significand : Nat
  exponent : Int
deriving Repr, DecidableEq

/-- What a double holds: a finite number, an infinity with its sign, or no number at all. -/
inductive Reading where
  | finite (value : FiniteDouble)
  | infinite (negative : Bool)
  | notANumber
deriving Repr, DecidableEq

/-- The quotient of two naturals rounded to the nearest natural, a half going to the even one. -/
def roundQuotient (numerator denominator : Nat) : Nat :=
  let quotient := numerator / denominator
  let remainder := numerator % denominator
  if 2 * remainder < denominator then quotient
  else if denominator < 2 * remainder then quotient + 1
  else quotient + quotient % 2

/-- The sign, exponent and fraction fields of a double. -/
def Reading.ofFloat (number : Float) : Reading :=
  let word : Nat := number.toBits.toNat
  let negative : Bool := Nat.pow 2 63 ≤ word
  let biased : Nat := word / Nat.pow 2 52 % 2048
  let fraction : Nat := word % Nat.pow 2 52
  if biased = 2047 then
    if fraction = 0 then .infinite negative else .notANumber
  else if biased = 0 then .finite ⟨negative, fraction, -1074⟩
  else .finite ⟨negative, fraction + Nat.pow 2 52, Int.ofNat biased - 1075⟩

namespace FiniteDouble

/-- The magnitude as a fraction of naturals; the denominator is a power of two. -/
def fraction (value : FiniteDouble) : Nat × Nat :=
  if 0 ≤ value.exponent then (value.significand * Nat.pow 2 value.exponent.toNat, 1)
  else (value.significand, Nat.pow 2 (-value.exponent).toNat)

/-- Puts the sign back on a magnitude. -/
def signed (value : FiniteDouble) (magnitude : Nat) : Int :=
  if value.negative then -(magnitude : Int) else magnitude

/-- The integer part, toward zero. -/
def truncate (value : FiniteDouble) : Int :=
  value.signed (value.fraction.1 / value.fraction.2)

/-- The largest integer that is not above the number. -/
def floor (value : FiniteDouble) : Int :=
  Int.fdiv (value.signed value.fraction.1) value.fraction.2

/-- The nearest integer, a half going to the even one. -/
def round (value : FiniteDouble) : Int :=
  value.signed (roundQuotient value.fraction.1 value.fraction.2)

def isIntegral (value : FiniteDouble) : Bool :=
  value.fraction.1 % value.fraction.2 = 0

/-- The number as an exact rational. -/
def toRat (value : FiniteDouble) : Rat :=
  mkRat (value.signed value.fraction.1) value.fraction.2

end FiniteDouble

/-- The power of two that a double next to `numerator / denominator` counts in: the quotient by it
has 53 bits, unless that would pass below the smallest power a double has. -/
def unitExponent (numerator denominator : Nat) : Int :=
  let guess := (numerator.log2 : Int) - denominator.log2 - 52
  let scaledNumerator := numerator * Nat.pow 2 (-guess).toNat
  let scaledDenominator := denominator * Nat.pow 2 guess.toNat
  let exponent :=
    if scaledNumerator < Nat.pow 2 52 * scaledDenominator then guess - 1 else guess
  max exponent (-1074)

/-- The bits of the double nearest to `numerator / denominator`, without the sign; past the largest
finite double, those of infinity. -/
def nearestWord (numerator denominator : Nat) : Nat :=
  if numerator = 0 then 0
  else
    let exponent := unitExponent numerator denominator
    let significand :=
      roundQuotient (numerator * Nat.pow 2 (-exponent).toNat)
        (denominator * Nat.pow 2 exponent.toNat)
    min (significand + (exponent + 1074).toNat * Nat.pow 2 52) (2047 * Nat.pow 2 52)

/-- The double nearest to a signed fraction, a half going to the even significand. -/
def nearest (negative : Bool) (numerator denominator : Nat) : Float :=
  let word := nearestWord numerator denominator
  Float.ofBits (UInt64.ofNat (if negative then word + Nat.pow 2 63 else word))

/-- The double nearest to an integer, unless that is beyond the largest finite one. -/
def nearestInt? (value : Int) : Option Float :=
  if nearestWord value.natAbs 1 < 2047 * Nat.pow 2 52 then
    some (nearest (value < 0) value.natAbs 1)
  else none

/-- The double nearest to `± digits · 10 ^ exponent`.  Magnitudes from `10 ^ 310` on and below
`10 ^ (-324)` are decided from the digit count alone: they are infinite and zero. -/
def nearestDecimal (negative : Bool) (digits : Nat) (exponent : Int) : Float :=
  let magnitude := exponent + (Nat.toDigits 10 digits).length
  if digits = 0 ∨ magnitude < -323 then nearest negative 0 1
  else if 310 < magnitude then nearest negative (Nat.pow 2 1024) 1
  else nearest negative (digits * Nat.pow 10 exponent.toNat) (Nat.pow 10 (-exponent).toNat)

end BellmanGrid
