import BellmanGrid.Grid.Nearest
import BellmanGrid.Problem.Evaluation
import BellmanGrid.Table.Access

/-!
Replay of a complete table: from an initial state on, the control is the one stored for the grid
point nearest to the state, and the dynamics give the next state.  The state itself is never moved
to the grid.
-/

namespace BellmanGrid

/-- The states that are visited, the controls in between, and the cost stored for the start. -/
structure Trajectory (α : Type) where
  states : List α
  controls : List α
  cost : α
deriving Repr, DecidableEq

/-- Why a table cannot be replayed, or a replay has no end. -/
inductive ReplayError (α : Type) where
  | rowMismatch (rows points : Nat)
  | incomplete
  | evaluation (cause : EvaluationError α)

instance : Reportable (ReplayError Float) where
  kind
    | .rowMismatch _ _ => .value
    | .incomplete => .runtime
    | .evaluation cause => kind cause
  message
    | .rowMismatch rows points => s!"table has {rows} state rows but the grid has {points} points"
    | .incomplete => "cannot simulate from a partially filled table"
    | .evaluation cause => message cause

/-- A problem, a grid of states, and a complete table over that grid. -/
structure Replay (α : Type) [Number α] where
  problem : Problem α
  states : Grid α
  horizon : Nat
  table : Table α states.size horizon
  complete : table.isComplete = true

namespace Replay

variable {α : Type} [Number α]

/-- Accepts a complete table that has a row for each point of the grid. -/
def ofTable (problem : Problem α) (states : Grid α) {rows horizon : Nat}
    (table : Table α rows horizon) : Except (ReplayError α) (Replay α) :=
  if hrows : rows = states.size then
    let fitted : Table α states.size horizon := hrows ▸ table
    if hcomplete : fitted.isComplete = true then
      .ok ⟨problem, states, horizon, fitted, hcomplete⟩
    else .error .incomplete
  else .error (.rowMismatch rows states.size)

/-- Follows columns of stored controls from a state on, the first of them at `time`. -/
def follow (problem : Problem α) (states : Grid α) :
    List (Vector (Option α) states.size) → (time : Nat) → (state : α) →
      Except (ReplayError α) (List α × List α)
  | [], _, state => .ok ([state], [])
  | column :: rest, time, state =>
      match column.get (states.nearestIndex state) with
      | none => .error .incomplete
      | some control => do
          let next ← (problem.evaluate .dynamics state (some control) time).mapError
            ReplayError.evaluation
          let (visited, controls) ← follow problem states rest (time + 1) next
          return (state :: visited, control :: controls)

/-- The trajectory from an initial state. -/
def simulate (replay : Replay α) (initial : α) : Except (ReplayError α) (Trajectory α) := do
  let (states, controls) ←
    follow replay.problem replay.states replay.table.policy.toList 0 initial
  match (replay.table.cost.get ⟨0, Nat.succ_pos _⟩).get (replay.states.nearestIndex initial) with
  | some cost => return ⟨states, controls, cost⟩
  | none => throw .incomplete

end Replay

end BellmanGrid
