import BellmanGrid.Number.Double

/-!
The arithmetic that grids, tables and problems are computed in.

Everything from grids to the closed form is written over `Number`, so one definition serves two
arithmetics: doubles, in which programs run, and rationals, in which laws hold exactly.  Nothing is
assumed of the operations; a law names the properties that it needs.
-/

namespace BellmanGrid

/-- What a quantity can be instead of a finite number. -/
inductive NonFinite where
  | notANumber
  | infinity
  | minusInfinity
deriving Repr, DecidableEq

def NonFinite.text : NonFinite → String
  | notANumber => "nan"
  | infinity => "inf"
  | minusInfinity => "-inf"

/-- An arithmetic: four operations, comparisons, and rounding to integers.  Comparisons are Boolean,
because a quantity that is no number compares with nothing, not even with itself. -/
class Number (α : Type) extends Add α, Sub α, Mul α, Div α, Neg α where
  /-- the quantity nearest to an integer -/
  ofInt : Int → α
  /-- a finite double in this arithmetic -/
  ofFloat : Float → α
  /-- strictly below -/
  less : α → α → Bool
  /-- below or equal -/
  atMost : α → α → Bool
  /-- equal -/
  same : α → α → Bool
  /-- the magnitude -/
  magnitude : α → α
  /-- what the quantity is instead of a finite number, if it is none -/
  nonFinite? : α → Option NonFinite
  /-- the largest integer not above a finite quantity -/
  floorInt : α → Int
  /-- the integer nearest to a finite quantity, a half going to the even one -/
  roundInt : α → Int

namespace Number

variable {α : Type} [Number α]

@[inline]
def isFinite (value : α) : Bool :=
  (nonFinite? value).isNone

@[inline]
def zero : α :=
  ofInt 0

/-- The larger of two quantities; the first one unless the second is above it. -/
@[inline]
def larger (first second : α) : α :=
  if less first second then second else first

end Number

/-- What a double is instead of a finite number, if it is none. -/
@[inline]
def NonFinite.ofFloat? (number : Float) : Option NonFinite :=
  if number.isFinite then none
  else if number.isNaN then some .notANumber
  else if number < 0.0 then some .minusInfinity
  else some .infinity

/-- The finite value of a double; zero stands in for what is no finite number. -/
def FiniteDouble.ofFloat (number : Float) : FiniteDouble :=
  match Reading.ofFloat number with
  | .finite value => value
  | _ => ⟨false, 0, 0⟩

/-- The double nearest to an integer; beyond the largest finite one, an infinity. -/
def floatOfInt (value : Int) : Float :=
  nearest (value < 0) value.natAbs 1

/-- Doubles: one rounding for each operation. -/
@[inline]
instance : Number Float where
  ofInt := floatOfInt
  ofFloat number := number
  less first second := first < second
  atMost first second := first ≤ second
  same first second := first == second
  magnitude := Float.abs
  nonFinite? := NonFinite.ofFloat?
  floorInt number := (FiniteDouble.ofFloat number).floor
  roundInt number := (FiniteDouble.ofFloat number).round

/-- Rationals: every quantity is a finite number. -/
@[inline]
instance : Number Rat where
  ofInt value := value
  ofFloat number := (FiniteDouble.ofFloat number).toRat
  less first second := first < second
  atMost first second := first ≤ second
  same first second := first == second
  magnitude value := if value < 0 then -value else value
  nonFinite? _ := none
  floorInt := Rat.floor
  roundInt value :=
    let rounded : Int := roundQuotient value.num.natAbs value.den
    if value < 0 then -rounded else rounded

end BellmanGrid
