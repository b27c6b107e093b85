import BellmanGrid.Sweep.Block
import BellmanGrid.Sweep.Setup
import BellmanGrid.Sweep.Stage
import BellmanGrid.Table.Access

/-!
The backward recursion: from the terminal costs down to time zero, each column of costs-to-go and
controls is computed from the finished column after it, block by block.
-/

namespace BellmanGrid

/-- Why a backward recursion has no table. -/
inductive SolveError (α : Type) where
  | horizon (cause : HorizonError)
  | table (cause : TableError)
  | evaluation (cause : EvaluationError α)
  | incomplete

instance : Reportable (SolveError Float) where
  kind
    | .horizon cause => kind cause
    | .table cause => kind cause
    | .evaluation cause => kind cause
    | .incomplete => .runtime
  message
    | .horizon cause => message cause
    | .table cause => message cause
    | .evaluation cause => message cause
    | .incomplete => "backward recursion left unset table cells"

/-- A problem on grids of states and controls. -/
structure GridProblem (α : Type) [Number α] where
  problem : Problem α
  states : Grid α
  controls : Grid α

namespace GridProblem

variable {α : Type} [Number α]

/-- The costs at the end of the horizon, for the states in order. -/
@[specialize]
def terminalCosts (task : GridProblem α) (horizon : Nat) : Except (EvaluationError α) (List α) :=
  if task.problem.vectorized then
    (task.problem.evaluateBlock .terminalCost (Tensor.row task.states.points) none horizon
      [task.states.size]).map (·.toList)
  else
    task.states.points.toList.mapM fun state =>
      task.problem.evaluate .terminalCost state none horizon

/-- The best choices for a block of states at a time, given the next costs-to-go. -/
@[specialize]
def chooseRows (task : GridProblem α) (next : Column α task.states.size) (time : Nat)
    (block : Block) : Except (EvaluationError α) (List (Choice α)) :=
  let states := task.states.points.extract block.start block.stop
  if task.problem.vectorized then
    Stage.chooseBlock task.problem task.states task.controls next time states
  else
    states.toList.mapM fun state =>
      Stage.choose task.problem task.states task.controls next time state

/-- Works on one block: reads the finished column after the time, and stores costs and controls of
the rows of the block. -/
@[specialize]
def sweepBlock (task : GridProblem α) {horizon : Nat} (time : Fin horizon)
    (table : Table α task.states.size horizon) (block : Block) :
    Except (SolveError α) (Table α task.states.size horizon) := do
  let next := table.cost.get time.succ
  let choices ← (task.chooseRows next time block).mapError SolveError.evaluation
  (table.storeStage time block.start block.stop (choices.map Choice.cost)
    (choices.map Choice.control)).mapError SolveError.table

/-- Works on all blocks of a time, in the order of the schedule. -/
@[specialize]
def sweepTime (task : GridProblem α) (chunkSize : Nat) (schedule : Schedule) {horizon : Nat}
    (time : Fin horizon) (table : Table α task.states.size horizon) :
    Except (SolveError α) (Table α task.states.size horizon) :=
  (schedule time (Block.cover task.states.size chunkSize)).foldlM (task.sweepBlock time) table

/-- Works on the times below `time`, from the last one down. -/
@[specialize]
def sweepDown (task : GridProblem α) (chunkSize : Nat) (schedule : Schedule) {horizon : Nat} :
    (time : Nat) → time ≤ horizon → Table α task.states.size horizon →
      Except (SolveError α) (Table α task.states.size horizon)
  | 0, _, table => .ok table
  | time + 1, hbound, table => do
      let table ← task.sweepTime chunkSize schedule ⟨time, hbound⟩ table
      sweepDown task chunkSize schedule time (Nat.le_of_succ_le hbound) table

/-- Costs-to-go and controls for a horizon, with the blocks of each time in the order of the
schedule. -/
@[specialize]
def solveScheduled (task : GridProblem α) (chunkSize : Nat) (schedule : Schedule) (horizon : Nat) :
    Except (SolveError α) (Table α task.states.size horizon) := do
  discard ((Table.checkSize task.states.size horizon).mapError SolveError.table)
  let costs ← (task.terminalCosts horizon).mapError SolveError.evaluation
  let table ← (Table.blank.storeTerminal costs).mapError SolveError.table
  let table ← task.sweepDown chunkSize schedule horizon (Nat.le_refl horizon) table
  if table.isComplete then return table else throw .incomplete

/-- Costs-to-go and controls for a horizon.  Workers share the blocks of one time, which write
different rows, so their number does not show in the table. -/
@[specialize]
def solve (task : GridProblem α) (execution : Execution) (horizon : Nat) :
    Except (SolveError α) (Table α task.states.size horizon) :=
  task.solveScheduled execution.chunkSize .sequential horizon

end GridProblem

end BellmanGrid
