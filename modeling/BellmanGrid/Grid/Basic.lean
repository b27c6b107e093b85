import BellmanGrid.Index.Selection
import BellmanGrid.Number.Basic
import BellmanGrid.Storage
import BellmanGrid.Text.Quoted
import BellmanGrid.Value.Arrangement

/-!
Grids: finite, strictly increasing sequences of points.

A grid carries the proofs that it has a point, that every point is a finite number and that every
difference of neighbours is above zero, so no later step has to check them again.
-/

namespace BellmanGrid

/-- What is wrong with the points or the range that a grid was asked for. -/
inductive GridFault (α : Type) where
  /-- points along several axes, or along none -/
  | notOneDimensional (shape : List Nat)
  /-- no points -/
  | empty
  /-- a point that is no finite number -/
  | notFinite
  /-- a point that is not above the one before it -/
  | notIncreasing
  /-- a range with a bound or a step that is no finite number -/
  | boundsNotFinite
  /-- a range with a step that is not above zero -/
  | stepNotPositive (step : α)
  /-- a range that ends before it starts -/
  | inverted (upper lower : α)
  /-- a range of more steps than a finite number tells -/
  | endless
  /-- a range with more points than can be stored -/
  | storage (cause : Storage.StorageError)
  /-- a bound or a step that is no number -/
  | bound (cause : ConversionError)
  /-- points that are no array of numbers -/
  | points (cause : ArrayError)
deriving Repr, DecidableEq

/-- A fault and the name of the grid that has it. -/
structure GridError (α : Type) where
  name : String
  fault : GridFault α
deriving Repr, DecidableEq

instance : Reportable (GridError Float) where
  kind error := match error.fault with
    | .endless => .overflow
    | .storage cause => kind cause
    | .bound cause => kind cause
    | .points cause => kind cause
    | _ => .invalidGrid
  message error := match error.fault with
    | .notOneDimensional shape =>
        s!"{error.name} grid must be one-dimensional, got shape {shapeText shape}"
    | .empty => s!"{error.name} grid is empty"
    | .notFinite => s!"{error.name} grid contains non-finite values"
    | .notIncreasing => s!"{error.name} grid is not strictly increasing"
    | .boundsNotFinite => s!"{error.name} grid bounds must be finite"
    | .stepNotPositive step => s!"{error.name} grid step must be positive, got {Decimal.text step}"
    | .inverted upper lower =>
        s!"{error.name} grid upper bound {Decimal.text upper} is below lower bound " ++
          Decimal.text lower
    | .endless => message ConversionError.infinite
    | .storage cause => message cause
    | .bound cause => message cause
    | .points cause => message cause

variable {α : Type} [Number α]

/-- Is every difference of neighbours above zero, from a position on? -/
@[specialize]
def risesFrom (points : Array α) (index : Nat) : Bool :=
  if hnext : index + 1 < points.size then
    if Number.less Number.zero (points[index + 1] - points[index]) then risesFrom points (index + 1)
    else false
  else true
termination_by points.size - index

theorem less_of_risesFrom {points : Array α} {start : Nat} (hrises : risesFrom points start = true)
    (index : Nat) (hstart : start ≤ index) (hnext : index + 1 < points.size) :
    Number.less Number.zero (points[index + 1] - points[index]) = true := by
  fun_induction risesFrom points start with
  | case1 start hlt hless ih =>
      by_cases hequal : index = start
      · subst hequal
        exact hless
      · exact ih hrises (by omega)
  | case2 => simp at hrises
  | case3 start hge => omega

theorem risesFrom_of_less {points : Array α} {start : Nat}
    (hless : ∀ index (hnext : index + 1 < points.size),
      Number.less Number.zero (points[index + 1] - points[index]) = true) :
    risesFrom points start = true := by
  fun_induction risesFrom points start with
  | case1 start hlt hfirst ih => exact ih
  | case2 start hlt hnot => exact absurd (hless start hlt) hnot
  | case3 start hge => rfl

/-- Points in increasing order, with the name that errors and reports show. -/
structure Grid (α : Type) [Number α] where
  name : String
  points : Array α
  nonempty : 0 < points.size
  finite : ∀ index (hindex : index < points.size), Number.isFinite points[index] = true
  increasing : ∀ index (hnext : index + 1 < points.size),
    Number.less Number.zero (points[index + 1] - points[index]) = true

namespace Grid

/-- The grid of the given points, if they are finite and strictly increasing. -/
def ofPoints (name : String) (points : Array α) : Except (GridError α) (Grid α) :=
  if hnonempty : 0 < points.size then
    if hfinite : points.all Number.isFinite = true then
      if hrises : risesFrom points 0 = true then
        .ok {
          name, points
          nonempty := hnonempty
          finite := fun index hindex => Array.all_eq_true.mp hfinite index hindex
          increasing := fun index hnext => less_of_risesFrom hrises index (Nat.zero_le _) hnext }
      else .error ⟨name, .notIncreasing⟩
    else .error ⟨name, .notFinite⟩
  else .error ⟨name, .empty⟩

/-- The grid of the points that a value lists; a single number is a grid of one point. -/
def ofValue (name : String) (value : Value) : Except (GridError Float) (Grid Float) :=
  match value.toTensor with
  | .error cause => .error ⟨name, .points cause⟩
  | .ok points =>
      if 1 < points.shape.length then .error ⟨name, .notOneDimensional points.shape⟩
      else ofPoints name points.data

@[inline]
def size (grid : Grid α) : Nat :=
  grid.points.size

theorem size_pos (grid : Grid α) : 0 < grid.size :=
  grid.nonempty

@[inline]
def point (grid : Grid α) (index : Fin grid.size) : α :=
  have hindex : index.val < grid.points.size := index.isLt
  grid.points[index.val]

theorem point_mem (grid : Grid α) (index : Fin grid.size) : grid.point index ∈ grid.points :=
  Array.getElem_mem index.isLt

/-- The point at an index given as a value, which may be counted from the end. -/
def pointOf (grid : Grid Float) (index : Value) : Except SelectionError Float := do
  match ← selectCell [grid.size] [← Selector.ofValue index] with
  | index :: _ =>
      if hindex : index < grid.size then return grid.point ⟨index, hindex⟩
      else throw .manyCells
  | [] => throw .manyCells

def lower (grid : Grid α) : α :=
  grid.point ⟨0, grid.nonempty⟩

def upper (grid : Grid α) : α :=
  grid.point ⟨grid.size - 1, Nat.sub_lt grid.nonempty Nat.one_pos⟩

/-- The same points under another name. -/
def rename (grid : Grid α) (name : String) : Grid α :=
  { grid with name }

/-- Name, number of points and range. -/
def description (grid : Grid Float) : String :=
  s!"DiscreteGrid(name={Text.quoted grid.name}, n={grid.size}, " ++
    s!"range=[{Decimal.general grid.lower}, {Decimal.general grid.upper}])"

end Grid

end BellmanGrid
