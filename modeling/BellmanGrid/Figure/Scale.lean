import BellmanGrid.Failure
import BellmanGrid.Number.Basic

/-!
The vertical scale of a panel.

A scale reaches from the lowest to the highest finite number, zero included, with a margin on both
sides.  Its marks are multiples of a step of one, two, two and a half or five times a power of ten,
about seven of them.  Near the largest double the width of the scale or a mark can overflow, and
then the panel cannot be drawn.
-/

namespace BellmanGrid.Scale

/-- Why a scale has no marks. -/
inductive ScaleError where
  /-- the width overflows, so that the marks cannot be counted -/
  | uncountable
  /-- the last mark overflows -/
  | endless
deriving Repr, DecidableEq

instance : Reportable ScaleError where
  kind
    | .uncountable => .value
    | .endless => .overflow
  message
    | .uncountable => "arange: cannot compute length"
    | .endless => "cannot convert float infinity to integer"

/-- The share of the width that is left free on both sides. -/
def margin : Float :=
  0.05

/-- The number of steps that a scale has at most. -/
def steps : Nat :=
  7

/-- The two ends of the scale of some numbers, unless one of them overflows. -/
def ends? (numbers : List Float) : Option (Float × Float) :=
  let finite := numbers.filter Float.isFinite
  let lowest := finite.foldl (fun low number => if number < low then number else low) 0.0
  let highest := finite.foldl (fun high number => if high < number then number else high) 0.0
  let free := (highest - lowest) * margin
  let free := if free.isFinite then free else 0.0
  let (lower, upper) := (lowest - free, highest + free)
  if lower.isFinite && upper.isFinite then some (lower, upper) else none

/-- The ends of the scale once one more number is shown, which moves them only if it lies
outside. -/
def endsWith? (numbers : List Float) (more : Float) : Option (Float × Float) :=
  match ends? numbers with
  | some (lower, upper) =>
      if more < lower || upper < more then ends? (more :: numbers) else some (lower, upper)
  | none => none

/-- The largest power of ten that is not above a number, which is one or more. -/
def powerOfTen (number : Float) : Float :=
  let whole := (FiniteDouble.ofFloat number).truncate.toNat
  nearestDecimal false 1 ((Nat.toDigits 10 whole).length - 1)

/-- The step between marks that are at least `least` apart. -/
def stepOf (least : Float) : Float :=
  let unit := powerOfTen least
  let candidates := [1.0, 2.0, 2.5, 5.0, 10.0, 20.0].map (· * unit)
  (candidates.find? (least ≤ ·)).getD (20.0 * unit)

/-- How often a step goes into a number, from below, and what is left. -/
def quotient (number step : Float) : Int × Rat :=
  let exact := (FiniteDouble.ofFloat number).toRat / (FiniteDouble.ofFloat step).toRat
  (exact.floor, exact - exact.floor)

/-- Accepts the ends of a scale whose marks can be told.  Far below the largest double every scale
has marks. -/
def check : Option (Float × Float) → Except ScaleError Unit
  | none => .ok ()
  | some (lower, upper) =>
      if lower.abs < 1e307 && upper.abs < 1e307 then .ok ()
      else
        let width := upper - lower
        if !width.isFinite then .error .uncountable
        else
          let step := stepOf (width / floatOfInt steps)
          let first := floatOfInt (quotient lower step).1 * step
          let reach := upper - first
          if !reach.isFinite then .error .uncountable
          else
            let (count, rest) := quotient reach step
            let count := if rest < 1 / 10000000000 then count else count + 1
            if (floatOfInt count * step + first).isFinite then .ok () else .error .endless

end BellmanGrid.Scale
