import BellmanGrid.Decimal.Shortest

/-!
Written forms of doubles: the shortest form that reads back, a fixed number of places, a fixed
number of digits with an exponent, and the general form that chooses between the two.
-/

namespace BellmanGrid.Decimal

/-- The digits of a natural, with zeros in front up to a width. -/
def padded (size : Nat) (value : Nat) : String :=
  let text := Nat.repr value
  "".pushn '0' (size - text.length) ++ text

def exponentText (exponent : Int) : String :=
  (if exponent < 0 then "e-" else "e+") ++ padded 2 exponent.natAbs

/-- A sign in front of a negative number, zero included. -/
def signText (negative : Bool) : String :=
  if negative then "-" else ""

/-- The texts of the doubles that are no finite numbers. -/
def specialText : Reading → String
  | .infinite negative => signText negative ++ "inf"
  | _ => "nan"

/-- Cuts `0`s off the end of a fraction. -/
def trimZeros (text : String) : String :=
  String.ofList ((text.toList.reverse.dropWhile (· == '0')).reverse)

/-- `digits / 10 ^ places` written with all its places. -/
def positional (digits places : Nat) : String × String :=
  (Nat.repr (digits / Nat.pow 10 places),
    if places = 0 then "" else padded places (digits % Nat.pow 10 places))

/-- A magnitude with one digit before the point and `places` after it, and its exponent. -/
def scientificDigits (value : FiniteDouble) (places : Nat) : Nat × Int :=
  if value.significand = 0 then (0, 0)
  else
    let leading := leadingExponent value.fraction.1 value.fraction.2
    let (numerator, denominator) := inUnits value.fraction.1 value.fraction.2 (leading - places)
    let rounded := roundQuotient numerator denominator
    if Nat.pow 10 (places + 1) ≤ rounded then (rounded / 10, leading + 1) else (rounded, leading)

/-- A magnitude in units of `10 ^ (-places)`, rounded. -/
def fixedDigits (value : FiniteDouble) (places : Nat) : Nat :=
  roundQuotient (value.fraction.1 * Nat.pow 10 places) value.fraction.2

/-- A point between the two parts, and no point when nothing follows it. -/
def joinPoint (parts : String × String) : String :=
  if parts.2 = "" then parts.1 else parts.1 ++ "." ++ parts.2

/-- Fixed places, such as `-0.250000`. -/
def fixed (places : Nat) (number : Float) : String :=
  match Reading.ofFloat number with
  | .finite value =>
      signText value.negative ++ joinPoint (positional (fixedDigits value places) places)
  | reading => specialText reading

/-- One digit, a point, fixed places and an exponent, such as `-2.500e-01`. -/
def scientific (places : Nat) (number : Float) : String :=
  match Reading.ofFloat number with
  | .finite value =>
      let (digits, exponent) := scientificDigits value places
      signText value.negative ++ joinPoint (positional digits places) ++ exponentText exponent
  | reading => specialText reading

/-- Six significant digits without zeros at the end; an exponent is written below `0.0001` and from
a million on. -/
def general (number : Float) : String :=
  match Reading.ofFloat number with
  | .finite value =>
      let (digits, exponent) := scientificDigits value 5
      let trimmed := fun (parts : String × String) => joinPoint (parts.1, trimZeros parts.2)
      signText value.negative ++
        (if -4 ≤ exponent ∧ exponent < 6 then
          trimmed (positional (digits * Nat.pow 10 (exponent - 5).toNat) (5 - exponent).toNat)
        else trimmed (positional digits 5) ++ exponentText exponent)
  | reading => specialText reading

/-- A share of one as a percentage with one place. -/
def percent (number : Float) : String :=
  fixed 1 (number * 100) ++ "%"

/-- The fewest digits that read back: positional from `0.0001` up to but not including `10 ^ 16`,
with an exponent elsewhere.  `integral` follows an integer written positionally. -/
def shortestText (integral : String) (number : Float) : String :=
  match Reading.ofFloat number with
  | .finite value =>
      if value.significand = 0 then signText value.negative ++ "0" ++ integral
      else
        let found := shortest value
        let leading := found.exponent + width found.digits - 1
        signText value.negative ++
          (if -4 ≤ leading ∧ leading < 16 then
            let (whole, part) :=
              positional (found.digits * Nat.pow 10 found.exponent.toNat) (-found.exponent).toNat
            if part = "" then whole ++ integral else whole ++ "." ++ part
          else
            joinPoint (positional found.digits (width found.digits - 1)) ++ exponentText leading)
  | reading => specialText reading

/-- The usual text of a number, which marks an integer by `.0`. -/
def text (number : Float) : String :=
  shortestText ".0" number

end BellmanGrid.Decimal
