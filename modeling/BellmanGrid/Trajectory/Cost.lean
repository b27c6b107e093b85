import BellmanGrid.Problem.Evaluation

/-!
The cost of a trajectory: the stage costs in the order of time, added up from the left, and then the
terminal cost.
-/

namespace BellmanGrid

inductive TrajectoryError (α : Type) where
  | lengthMismatch (states controls : Nat)
  | evaluation (cause : EvaluationError α)
  | array (cause : ArrayError)
  /-- states or controls without an axis -/
  | noAxis
  /-- states or controls with more than one axis -/
  | manyAxes

instance : Reportable (TrajectoryError Float) where
  kind
    | .lengthMismatch _ _ => .value
    | .evaluation cause => kind cause
    | .array cause => kind cause
    | .noAxis => .index
    | .manyAxes => .type
  message
    | .lengthMismatch states controls =>
        s!"expected {controls + 1} states for {controls} controls, got {states}"
    | .evaluation cause => message cause
    | .array cause => message cause
    | .noAxis => "tuple index out of range"
    | .manyAxes => "only 0-dimensional arrays can be converted to Python scalars"

namespace Problem

variable {α : Type} [Number α]

/-- Adds the costs from a time on to a total: a stage cost for each control, and at the last state
the terminal cost. -/
def addCosts (problem : Problem α) (total : α) (time : Nat) :
    (states controls : List α) → Except (EvaluationError α) α
  | state :: states, control :: controls => do
      let stage ← problem.evaluate .stageCost state (some control) time
      addCosts problem (total + stage) (time + 1) states controls
  | state :: _, [] => do
      return total + (← problem.evaluate .terminalCost state none time)
  | [], _ => .ok total

/-- The cost of states and the controls between them. -/
def realizedCost (problem : Problem α) (states controls : List α) :
    Except (TrajectoryError α) α :=
  if states.length = controls.length + 1 then
    (problem.addCosts Number.zero 0 states controls).mapError TrajectoryError.evaluation
  else .error (.lengthMismatch states.length controls.length)

def realizedCostOfValues (problem : Problem Float) (states controls : Value) :
    Except (TrajectoryError Float) Float := do
  let states ← states.toTensor.mapError TrajectoryError.array
  let controls ← controls.toTensor.mapError TrajectoryError.array
  match controls.shape, states.shape with
  | [], _ => throw .noAxis
  | _, [] => throw .noAxis
  | steps :: controlAxes, count :: stateAxes =>
      if count ≠ steps + 1 then throw (.lengthMismatch count steps)
      if !stateAxes.isEmpty || (steps ≠ 0 && !controlAxes.isEmpty) then throw .manyAxes
      problem.realizedCost states.data.toList controls.data.toList

end Problem

end BellmanGrid
