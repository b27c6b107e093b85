import BellmanGrid.Grid.Basic

/-!
Uniform grids over a range.

The number of steps is the quotient of width and step, rounded to the nearest integer when it is
within a relative tolerance of one and cut off otherwise.  Points are multiples of one common gap
above the lower bound, so no error builds up along the grid.
-/

namespace BellmanGrid.Grid

variable {α : Type} [Number α]

/-- The share of a step by which a range may miss a whole number of steps. -/
def stepTolerance : α :=
  Number.ofInt 1 / Number.ofInt (Int.pow 10 9)

/-- `count + 1` evenly spaced points, the last of them exactly the upper bound. -/
def spaced (lower upper : α) (count : Nat) : Array α :=
  let width := upper - lower
  if count = 0 then #[Number.zero * width + lower]
  else
    let gap := width / Number.ofInt count
    let point (index : Nat) : α :=
      if index = count then upper
      else if Number.same gap Number.zero then
        Number.ofInt index / Number.ofInt count * width + lower
      else Number.ofInt index * gap + lower
    Array.ofFn (n := count + 1) fun index => point index

/-- How many steps a range of `steps` steps has, and whether they end at the upper bound. -/
def stepCount (steps : α) : Int × Bool :=
  let nearest := Number.roundInt steps
  let miss := Number.magnitude (steps - Number.ofInt nearest)
  if Number.atMost miss (stepTolerance * Number.larger (Number.ofInt 1) steps) then (nearest, true)
  else (Number.floorInt steps, false)

/-- The points `lower`, `lower + step`, … up to `upper`. -/
def range (name : String) (lower upper step : α) : Except (GridError α) (Grid α) :=
  let fail (fault : GridFault α) : Except (GridError α) (Grid α) := .error ⟨name, fault⟩
  if !(Number.isFinite lower && Number.isFinite upper && Number.isFinite step) then
    fail .boundsNotFinite
  else if Number.atMost step Number.zero then fail (.stepNotPositive step)
  else if Number.less upper lower then fail (.inverted upper lower)
  else
    let steps := (upper - lower) / step
    if !Number.isFinite steps then fail .endless
    else
      let (count, aligned) := stepCount steps
      let last := if aligned then upper else lower + Number.ofInt count * step
      match Storage.checkRange (count.toNat + 1) with
      | .error cause => fail (.storage cause)
      | .ok () => ofPoints name (spaced lower last count.toNat)

def rangeOfValues (name : String) (lower upper step : Value) :
    Except (GridError Float) (Grid Float) := do
  let number (value : Value) : Except (GridError Float) Float :=
    value.toReal.mapError fun cause => ⟨name, .bound cause⟩
  range name (← number lower) (← number upper) (← number step)

end BellmanGrid.Grid
