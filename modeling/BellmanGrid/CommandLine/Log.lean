import BellmanGrid.Solution.Basic

/-!
The log of a run: one record for each step that is done, and how far a failed run has come.
-/

namespace BellmanGrid

/-- How important a record is. -/
inductive LogLevel where
  | debug
  | info
deriving Repr, DecidableEq

/-- A record: its level, the part of the program that writes it, and its text. -/
structure LogRecord where
  level : LogLevel
  source : String
  text : String
deriving Repr, DecidableEq

def LogLevel.name : LogLevel → String
  | debug => "DEBUG"
  | info => "INFO"

namespace LogRecord

def command (text : String) : LogRecord :=
  ⟨.info, "GRID_DP_MAIN", text⟩

def sweep (level : LogLevel) (text : String) : LogRecord :=
  ⟨level, "control.backward_solver", text⟩

def replay (text : String) : LogRecord :=
  ⟨.info, "control.forward_simulator", text⟩

def line (record : LogRecord) : String :=
  s!"[{record.level.name}] {record.source}: {record.text}\n"

def sweepStarted (solver : Solver) (horizon : Int) : LogRecord :=
  let mode := if solver.task.problem.vectorized then "vectorized" else "scalar"
  .sweep .info (s!"Backward recursion: {solver.task.states.size} states x " ++
    s!"{solver.task.controls.size} controls x {horizon} steps ({mode}, " ++
    s!"workers={solver.execution.workers})")

/-- The records of the times that are worked on, from the last one down to `start`. -/
def timesFinished (horizon start : Nat) : List LogRecord :=
  (List.range (horizon - start)).map fun done =>
    .sweep .debug s!"Stage k={horizon - 1 - done} complete"

def sweepFinished (elapsed : String) {states horizon : Nat} (table : Table Float states horizon) :
    LogRecord :=
  .sweep .info s!"Backward recursion finished in {elapsed} s ({table.description})"

def replayFinished (initial cost : Float) : LogRecord :=
  .replay s!"Forward replay from x0={Decimal.general initial}: J_opt={Decimal.general cost}"

end LogRecord

/-- The first of the times that a failed recursion has finished: all of them come after the time of
the failure, and there are none if the terminal costs have failed. -/
def SolveError.firstFinished {α : Type} (horizon : Nat) : SolveError α → Nat
  | .evaluation (.callback failure) => (failure.time + 1).toNat
  | .incomplete => 0
  | _ => horizon

end BellmanGrid
