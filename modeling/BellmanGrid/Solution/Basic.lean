import BellmanGrid.Sweep.Solve
import BellmanGrid.Trajectory.Cost
import BellmanGrid.Trajectory.Initial
import BellmanGrid.Trajectory.Replay

/-!
Solving a problem from an initial state: the backward recursion, and then the replay of its table.
-/

namespace BellmanGrid

/-- A table and the trajectory that follows it. -/
structure Solution (α : Type) [Number α] (task : GridProblem α) where
  horizon : Nat
  table : Table α task.states.size horizon
  trajectory : Trajectory α

inductive RunError (α : Type) where
  | initialState (cause : InitialStateError)
  | horizon (cause : HorizonError)
  | solve (cause : SolveError α)
  | replay (cause : ReplayError α)

instance : Reportable (RunError Float) where
  kind
    | .initialState cause => kind cause
    | .horizon cause => kind cause
    | .solve cause => kind cause
    | .replay cause => kind cause
  message
    | .initialState cause => message cause
    | .horizon cause => message cause
    | .solve cause => message cause
    | .replay cause => message cause

namespace GridProblem

variable {α : Type} [Number α]

def replay (task : GridProblem α) {horizon : Nat} (table : Table α task.states.size horizon)
    (initial : α) : Except (RunError α) (Solution α task) := do
  let replay ← (Replay.ofTable task.problem task.states table).mapError RunError.replay
  let trajectory ← (replay.simulate initial).mapError RunError.replay
  return { horizon, table, trajectory }

/-- Solves over a horizon and replays from an initial state. -/
@[specialize]
def run (task : GridProblem α) (execution : Execution) (initial : α) (horizon : Nat) :
    Except (RunError α) (Solution α task) := do
  let table ← (task.solve execution horizon).mapError RunError.solve
  task.replay table initial

end GridProblem

/-- A grid, or the points of one. -/
inductive GridSource where
  | grid (ready : Grid Float)
  | points (listed : Value)

def GridSource.named (name : String) : GridSource → Except (GridError Float) (Grid Float)
  | grid ready => .ok (ready.rename name)
  | points listed => Grid.ofValue name listed

inductive SolverError where
  | grid (cause : GridError Float)
  | setup (cause : SetupError)

instance : Reportable SolverError where
  kind
    | .grid cause => kind cause
    | .setup cause => kind cause
  message
    | .grid cause => message cause
    | .setup cause => message cause

/-- A problem on grids together with the way it is executed, ready for any number of runs. -/
structure Solver where
  task : GridProblem Float
  execution : Execution

namespace Solver

/-- Names the grids after their roles, and checks first the grids, then the rest. -/
def ofParts (subject : Subject Float) (states controls : GridSource) (workers chunkSize : Value) :
    Except SolverError Solver := do
  let states ← (states.named "state").mapError SolverError.grid
  let controls ← (controls.named "control").mapError SolverError.grid
  let problem ← subject.problem?.mapError SolverError.setup
  let execution ← (Execution.ofValues workers chunkSize).mapError SolverError.setup
  return ⟨⟨problem, states, controls⟩, execution⟩

/-- Runs from an initial state over a horizon, both given as values.  The initial state is checked
first, then the horizon, and nothing is evaluated before both are accepted. -/
def run (solver : Solver) (initial horizon : Value) :
    Except (RunError Float) (Solution Float solver.task) := do
  let initial ← (checkInitialState initial).mapError RunError.initialState
  let horizon ← (checkHorizon horizon).mapError RunError.horizon
  solver.task.run solver.execution initial horizon

end Solver

namespace Solution

variable {α : Type} [Number α] {task : GridProblem α}

/-- The cost of the trajectory, stage by stage. -/
def realizedCost (solution : Solution α task) : Except (TrajectoryError α) α :=
  task.problem.realizedCost solution.trajectory.states solution.trajectory.controls

end Solution

end BellmanGrid
