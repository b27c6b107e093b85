import BellmanGrid.Failure

/-!
Positions along an axis, counted from the front or, when negative, from the back, and the rows that
a slice selects.
-/

namespace BellmanGrid

/-- A position that an axis does not have. -/
structure IndexError where
  index : Int
  axis : Nat
  size : Nat
deriving Repr, DecidableEq

instance : Reportable IndexError where
  kind _ := .index
  message error :=
    s!"index {error.index} is out of bounds for axis {error.axis} with size {error.size}"

/-- The position that an index names; a negative one counts from the back. -/
def position (axis size : Nat) (index : Int) : Except IndexError (Fin size) :=
  let front := if index < 0 then index + size else index
  if hrange : 0 ≤ front ∧ front < size then .ok ⟨front.toNat, by omega⟩
  else .error ⟨index, axis, size⟩

theorem position_of_lt (axis : Nat) {size index : Nat} (hindex : index < size) :
    position axis size index = .ok ⟨index, hindex⟩ := by
  have hfront : ¬ (index : Int) < 0 := by omega
  have hrange : (0 : Int) ≤ index ∧ (index : Int) < size := by omega
  simp only [position, if_neg hfront, dif_pos hrange]
  rfl

/-- A selection of positions by a start, a stop and a step, each of which may be left out. -/
structure Slice where
  start : Option Int
  stop : Option Int
  step : Option Int
deriving Repr, DecidableEq

namespace Slice

/-- A bound moved into the axis: a negative one counts from the back, and what still lies outside
becomes the nearest of the two limits. -/
def clamp (size low high : Int) (bound : Int) : Int :=
  if bound < 0 then max (bound + size) low else min bound high

/-- The first position and the number of positions, for a step that is not zero. -/
def span (slice : Slice) (size : Nat) (step : Int) : Int × Nat :=
  if 0 < step then
    let start := (slice.start.map (clamp size 0 size)).getD 0
    let stop := (slice.stop.map (clamp size 0 size)).getD size
    (start, ((stop - start + step - 1) / step).toNat)
  else
    let start := (slice.start.map (clamp size (-1) (size - 1))).getD (size - 1)
    let stop := (slice.stop.map (clamp size (-1) (size - 1))).getD (-1)
    (start, ((start - stop + -step - 1) / -step).toNat)

/-- The selected positions in order, or nothing when the step is zero. -/
def positions? (slice : Slice) (size : Nat) : Option (List (Fin size)) :=
  let step := slice.step.getD 1
  if step = 0 then none
  else
    let (start, count) := slice.span size step
    some ((List.range count).filterMap fun (index : Nat) =>
      (position 0 size (start + (index : Int) * step)).toOption)

end Slice

end BellmanGrid
