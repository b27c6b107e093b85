import BellmanGrid.Grid.Basic

/-!
The grid point nearest to a quantity.

`nearestIndex` finds the place of the quantity among the points by halving and compares its two
neighbours; of two points at one distance it takes the lower one.  `scanNearest` looks at every
point and is the rule that the search agrees with.
-/

namespace BellmanGrid

namespace Number

variable {α : Type} [Number α]

/-- Does a quantity come before another in sorted order, in which what is no number comes last? -/
@[inline]
def before (first second : α) : Bool :=
  less first second || (!same second second && same first first)

end Number

variable {α : Type} [Number α]

/-- The first position from `low` on, at most `high`, whose entry does not come before the
quantity, for entries in sorted order. -/
@[specialize]
def insertionIndex (points : Array α) (quantity : α) (low high : Nat) : Nat :=
  if _hopen : low < high then
    let middle := (low + high) / 2
    if hmiddle : middle < points.size then
      if Number.before points[middle] quantity then
        insertionIndex points quantity (middle + 1) high
      else insertionIndex points quantity low middle
    else low
  else low
termination_by high - low

/-- Of all points the first one at the smallest distance, looked for from the last position down. -/
def scanNearest (points : Array α) (quantity : α) : (count : Nat) → Nat
  | 0 => 0
  | count + 1 =>
      let best := scanNearest points quantity count
      match points[count]?, points[best]? with
      | some candidate, some current =>
          if Number.less (Number.magnitude (quantity - candidate))
              (Number.magnitude (quantity - current))
          then count else best
      | _, _ => best

namespace Grid

/-- The index of the nearest point.  Beyond the ends this is the end; of two points at one distance
it is the lower one. -/
@[inline]
def nearestIndex (grid : Grid α) (quantity : α) : Fin grid.size :=
  let right := insertionIndex grid.points quantity 0 grid.size
  let above : Fin grid.size :=
    ⟨min right (grid.size - 1), by have := grid.nonempty; unfold size; omega⟩
  let below : Fin grid.size :=
    ⟨min (right - 1) (grid.size - 1), by have := grid.nonempty; unfold size; omega⟩
  if Number.atMost (Number.magnitude (quantity - grid.point below))
      (Number.magnitude (quantity - grid.point above))
  then below else above

/-- The nearest point. -/
def snap (grid : Grid α) (quantity : α) : α :=
  grid.point (grid.nearestIndex quantity)

end Grid

end BellmanGrid
