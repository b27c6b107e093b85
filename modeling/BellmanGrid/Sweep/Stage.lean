import BellmanGrid.Grid.Nearest
import BellmanGrid.Problem.Evaluation

/-!
One step of the backward recursion on a block of states.

The candidate of a state and a control is the stage cost plus the next cost-to-go at the grid point
nearest to the successor.  The cheapest candidate wins, and of equal ones the first.  Candidates are
evaluated pair by pair, or for the whole block at once: then all successors come before all stage
costs, those before all sums, and the smallest sum of each row is looked for last.
-/

namespace BellmanGrid

/-- A cost and the control that it comes from. -/
structure Choice (α : Type) where
  cost : α
  control : α
deriving Repr, DecidableEq

namespace Choice

variable {α : Type} [Number α]

/-- Keeps the cheaper of two choices, the first one when neither is cheaper. -/
@[inline]
def keep (best candidate : Choice α) : Choice α :=
  if Number.less candidate.cost best.cost then candidate else best

/-- Goes on from a position with the best choice so far.  Candidates are evaluated in order, and the
first one that fails ends the search. -/
@[specialize]
def searchFrom {ε : Type} {count : Nat} (candidate : Fin count → Except ε (Choice α))
    (index : Nat) (best : Choice α) : Except ε (Choice α) :=
  if hindex : index < count then
    match candidate ⟨index, hindex⟩ with
    | .ok found => searchFrom candidate (index + 1) (best.keep found)
    | .error error => .error error
  else .ok best
termination_by count - index

/-- The first of the cheapest candidates. -/
@[specialize]
def search {ε : Type} {count : Nat} (hcount : 0 < count)
    (candidate : Fin count → Except ε (Choice α)) : Except ε (Choice α) := do
  searchFrom candidate 1 (← candidate ⟨0, hcount⟩)

end Choice

/-- A column of costs-to-go over the states of a grid. -/
abbrev Column (α : Type) (states : Nat) : Type :=
  Vector (Option α) states

namespace Stage

variable {α : Type} [Number α]

/-- A stage cost plus the next cost-to-go, if that is a finite number. -/
@[inline]
def sum? (stage : α) (next : Option α) : Option α :=
  match next with
  | none => none
  | some next =>
      let sum := stage + next
      if Number.isFinite sum then some sum else none

/-- The sum for a state and a control; a sum that is no finite number is a failure there. -/
@[inline]
def sumAt (state control : α) (time : Int) (stage : α) (next : Option α) :
    Except (EvaluationError α) α :=
  match sum? stage next with
  | some cost => .ok cost
  | none =>
      .error (CallbackFailure.report ⟨.stageCost, state, some control, time, .overflow stage next⟩)

@[specialize]
def candidate (problem : Problem α) (states : Grid α) (next : Column α states.size) (time : Int)
    (state control : α) : Except (EvaluationError α) (Choice α) := do
  let successor ← problem.evaluate .dynamics state (some control) time
  let stage ← problem.evaluate .stageCost state (some control) time
  let cost ← sumAt state control time stage (next.get (states.nearestIndex successor))
  return ⟨cost, control⟩

/-- The best choice of a state, with its candidates evaluated one after the other. -/
@[specialize]
def choose (problem : Problem α) (states controls : Grid α) (next : Column α states.size)
    (time : Int) (state : α) : Except (EvaluationError α) (Choice α) :=
  Choice.search controls.size_pos fun control =>
    candidate problem states next time state (controls.point control)

/-- The position of a row and a column in row-major order. -/
def place {rows columns : Nat} (row : Fin rows) (column : Fin columns) :
    Fin (extent [rows, columns]) :=
  ⟨row.val * columns + column.val, by
    have hextent : extent [rows, columns] = rows * columns := by simp [extent]
    have hrow : (row.val + 1) * columns ≤ rows * columns := Nat.mul_le_mul_right _ row.isLt
    rw [Nat.add_mul, Nat.one_mul] at hrow
    have hcolumn := column.isLt
    omega⟩

def rowOf {rows columns : Nat} (position : Fin (extent [rows, columns])) : Fin rows :=
  ⟨position.val / columns, by
    have hposition : position.val < rows * columns := by simpa [extent] using position.isLt
    exact Nat.div_lt_of_lt_mul (Nat.mul_comm rows columns ▸ hposition)⟩

def columnOf {rows columns : Nat} (position : Fin (extent [rows, columns])) : Fin columns :=
  ⟨position.val % columns, by
    have hposition : position.val < rows * columns := by simpa [extent] using position.isLt
    exact Nat.mod_lt _ (Nat.pos_of_mul_pos_left (Nat.zero_lt_of_lt hposition))⟩

/-- Goes on along a row with the first of its smallest entries so far. -/
@[specialize]
def firstSmallestFrom {columns : Nat} (entry : Fin columns → α) (index : Nat)
    (best : Fin columns) : Fin columns :=
  if hindex : index < columns then
    firstSmallestFrom entry (index + 1)
      (if Number.less (entry ⟨index, hindex⟩) (entry best) then ⟨index, hindex⟩ else best)
  else best
termination_by columns - index

/-- The column of the first of the smallest entries of a row. -/
@[specialize]
def firstSmallest {columns : Nat} (hcolumns : 0 < columns) (entry : Fin columns → α) :
    Fin columns :=
  firstSmallestFrom entry 1 ⟨0, hcolumns⟩

@[inline]
def stateAt {columns : Nat} (block : Array α) (position : Fin (extent [block.size, columns])) : α :=
  block[rowOf position]

@[specialize]
def blockSums (states controls : Grid α) (next : Column α states.size) (time : Int)
    (block : Array α) (successors stages : Vector α (extent [block.size, controls.size])) :
    Except (EvaluationError α) (Vector α (extent [block.size, controls.size])) :=
  Vector.ofFnM fun position =>
    sumAt (stateAt block position) (controls.point (columnOf position)) time (stages.get position)
      (next.get (states.nearestIndex (successors.get position)))

/-- The best choices of the states of a block, with all callbacks evaluated at once. -/
@[specialize]
def chooseBlock (problem : Problem α) (states controls : Grid α) (next : Column α states.size)
    (time : Int) (block : Array α) : Except (EvaluationError α) (List (Choice α)) := do
  let blockStates := Tensor.column block
  let blockControls := some (Tensor.flatRow controls.points)
  let successors ← problem.evaluateBlock .dynamics blockStates blockControls time
    [block.size, controls.size]
  let stages ← problem.evaluateBlock .stageCost blockStates blockControls time
    [block.size, controls.size]
  let sums ← blockSums states controls next time block successors stages
  return (List.finRange block.size).map fun row =>
    let best := firstSmallest controls.size_pos fun control =>
      sums.get (place row control)
    ⟨sums.get (place row best), controls.point best⟩

end Stage

end BellmanGrid
