import BellmanGrid.CommandLine.Log
import BellmanGrid.CommandLine.Options
import BellmanGrid.Config.Load
import BellmanGrid.LinearQuadratic.ClosedForm
import BellmanGrid.Solution.Rows
import BellmanGrid.Solution.Summary

/-!
The command line: reading the configuration, solving the problem in it, and writing the results.

A command may stop at any step; what was written before stays written.
-/

namespace BellmanGrid

/-- Why a command has stopped. -/
inductive CommandError where
  | exit (code : Nat)
  | load (cause : LoadError)
  | file (cause : FileError)
  | grid (cause : GridError Float)
  | solver (cause : SolverError)
  | run (cause : RunError Float)
  | closedForm (cause : ClosedFormError Float)
  | index (cause : IndexError)
  | figure (cause : FigureError)
  | cost (cause : TrajectoryError Float)

instance : Reportable CommandError where
  kind
    | .exit _ => .exit
    | .load cause => kind cause
    | .file cause => kind cause
    | .grid cause => kind cause
    | .solver cause => kind cause
    | .run cause => kind cause
    | .closedForm cause => kind cause
    | .index cause => kind cause
    | .figure cause => kind cause
    | .cost cause => kind cause
  message
    | .exit code => toString code
    | .load cause => message cause
    | .file cause => message cause
    | .grid cause => message cause
    | .solver cause => message cause
    | .run cause => message cause
    | .closedForm cause => message cause
    | .index cause => message cause
    | .figure cause => message cause
    | .cost cause => message cause

/-- What a command has written so far. -/
structure Session where
  files : FileTree
  output : String := ""
  diagnostics : String := ""

/-- A step of a command: it may stop, and keeps what was written. -/
abbrev Command (α : Type) : Type :=
  ExceptT CommandError (StateM Session) α

namespace Command

/-- Stops at a failure. -/
def require {ε α : Type} (cause : ε → CommandError) (outcome : Except ε α) : Command α :=
  match outcome with
  | .ok result => return result
  | .error error => throw (cause error)

def print (text : String) : Command Unit :=
  modify fun session => { session with output := session.output ++ text }

def complain (text : String) : Command Unit :=
  modify fun session => { session with diagnostics := session.diagnostics ++ text }

def withFiles (change : FileTree → Except FileError FileTree) : Command Unit := do
  let files ← require CommandError.file (change (← get).files)
  modify fun session => { session with files }

/-- The settings in the arguments.  Help and complaints end the command. -/
def settings (arguments : List String) : Command Settings := do
  match Settings.ofArguments arguments with
  | .ok settings => return settings
  | .error .help => do
      print Usage.help
      throw (.exit 0)
  | .error (.usage error) => do
      complain (Usage.complaint error)
      throw (.exit 2)

end Command

/-- What a command works with: its configuration, where it writes, whether it saves a figure,
whether it keeps all records, and the text of the time that it takes. -/
structure Assignment where
  config : RunConfig
  directory : Path
  figure : Bool
  verbose : Bool
  elapsed : String

namespace Assignment

def ofSettings (settings : Settings) (config : RunConfig) (elapsed : String) : Assignment :=
  let workers := settings.workers.getD config.execution.workers
  let directory := match settings.output with
    | some directory => if directory.isEmpty then config.output.directory else directory
    | none => config.output.directory
  { config := { config with execution := { config.execution with workers } }
    directory := Path.ofText directory
    figure := config.output.figure && settings.figure
    verbose := settings.verbose
    elapsed }

def system (assignment : Assignment) : LinearQuadratic Float :=
  let problem := assignment.config.problem
  { a := problem.a, b := problem.b, q := problem.q, r := problem.r
    terminalWeight := problem.terminalWeight, target := problem.target }

def logPath (assignment : Assignment) : Path :=
  assignment.directory.child "solver.log"

def rowsPath (assignment : Assignment) : Path :=
  assignment.directory.child "trajectory.csv"

def figurePath (assignment : Assignment) : Path :=
  assignment.directory.child "trajectory.png"

/-- Adds records to the log; those for debugging are kept only if all are. -/
def record (assignment : Assignment) (records : List LogRecord) : Command Unit := do
  let kept := records.filter fun record => assignment.verbose || record.level = .info
  Command.withFiles (·.append assignment.logPath (String.join (kept.map LogRecord.line)))

/-- Makes the directory and an empty log in it. -/
def openLog (assignment : Assignment) : Command Unit := do
  Command.withFiles (·.ensureDirectory assignment.directory)
  Command.withFiles (·.write assignment.logPath (.document ""))

def solver (assignment : Assignment) : Command Solver := do
  let config := assignment.config
  let gridOf (name : String) (range : RangeSettings) : Command (Grid Float) :=
    Command.require CommandError.grid (Grid.range name range.lower range.upper range.step)
  let states ← gridOf "state" config.states
  let controls ← gridOf "control" config.controls
  assignment.record [
    .command s!"Problem: {assignment.system.description}",
    .command s!"Grids: {states.description}, {controls.description}"]
  Command.require CommandError.solver
    (Solver.ofParts (.problem (assignment.system.problem true)) (.grid states) (.grid controls)
      (.integer config.execution.workers) (.integer config.execution.chunkSize))

/-- Solves the problem, and writes a record of each step that is done. -/
def solution (assignment : Assignment) (solver : Solver) :
    Command (Solution Float solver.task) := do
  let problem := assignment.config.problem
  let initial ← Command.require (CommandError.run ∘ RunError.initialState)
    (checkInitialState (.real problem.initial))
  let horizon ← Command.require (CommandError.run ∘ RunError.horizon)
    (checkHorizon (.integer problem.horizon))
  assignment.record [.sweepStarted solver horizon]
  match solver.task.solve solver.execution horizon with
  | .error cause => do
      assignment.record (LogRecord.timesFinished horizon (cause.firstFinished horizon))
      throw (.run (.solve cause))
  | .ok table => do
      assignment.record (LogRecord.timesFinished horizon 0 ++
        [.sweepFinished assignment.elapsed table])
      let solution ← Command.require CommandError.run (solver.task.replay table initial)
      assignment.record [.replayFinished initial solution.trajectory.cost]
      return solution

/-- Compares the cost of a solution with the exact optimal cost. -/
def compare (assignment : Assignment) {task : GridProblem Float} (solution : Solution Float task) :
    Command Unit := do
  let problem := assignment.config.problem
  let exact ← Command.require CommandError.closedForm (assignment.system.solve problem.horizon)
  let reference ← Command.require CommandError.index (exact.costToGo problem.initial 0)
  let cost := solution.trajectory.cost
  assignment.record [.command (s!"Closed-form LQ cost {Decimal.fixed 6 reference}, " ++
    s!"grid DP cost {Decimal.fixed 6 cost} " ++
    s!"(difference {Decimal.scientific 3 (cost - reference)})")]

def saveRows (assignment : Assignment) (trajectory : Trajectory Float) : Command Unit := do
  Command.withFiles (·.ensureDirectory assignment.directory)
  Command.withFiles (·.write assignment.rowsPath (.document trajectory.document))
  assignment.record [.command s!"Trajectory written to {assignment.rowsPath.text}"]

def figureOf (assignment : Assignment) (trajectory : Trajectory Float) :
    Except FigureError Figure :=
  Figure.ofTrajectory trajectory.states trajectory.controls
    (some assignment.config.problem.target) Figure.defaultTitle

/-- Writes the figure of a trajectory if it is asked for. -/
def saveFigure (assignment : Assignment) (trajectory : Trajectory Float) : Command Unit := do
  if assignment.figure then
    let figure ← Command.require CommandError.figure (assignment.figureOf trajectory)
    Command.withFiles (·.write assignment.figurePath (.drawing figure))
    assignment.record [.command s!"Plot saved to {assignment.figurePath.text}"]

/-- Solves the problem and writes the results; the log is open. -/
def run (assignment : Assignment) : Command (Σ solver : Solver, Solution Float solver.task) := do
  let solver ← assignment.solver
  let solution ← assignment.solution solver
  assignment.compare solution
  assignment.saveRows solution.trajectory
  assignment.saveFigure solution.trajectory
  return ⟨solver, solution⟩

/-- The line between the parts of the output. -/
def rule : String :=
  "".pushn '=' 70 ++ "\n"

/-- Prints the summary of a solution between rules, and below it where the results are. -/
def report (assignment : Assignment) {task : GridProblem Float} (solution : Solution Float task) :
    Command Unit := do
  Command.print ("\n" ++ rule)
  Command.print ((← Command.require CommandError.cost solution.summary) ++ "\n")
  Command.print (rule ++ s!"  Wall time: {assignment.elapsed} seconds\n" ++
    s!"  Outputs saved to: {assignment.directory.text}\n" ++ rule)

def perform (assignment : Assignment) : Command Unit := do
  assignment.openLog
  let ⟨_, solution⟩ ← assignment.run
  assignment.report solution

end Assignment

namespace Command

/-- Does what the arguments ask for.  `elapsed` is the text of the time that it takes. -/
def run (elapsed : String) (arguments : List String) : Command Unit := do
  let settings ← Command.settings arguments
  let config ← require CommandError.load (RunConfig.load (← get).files settings.config)
  (Assignment.ofSettings settings config elapsed).perform

/-- What a command leaves behind when it is run over files, and why it stopped if it did. -/
def outcome (elapsed : String) (arguments : List String) (files : FileTree) :
    Except CommandError Unit × Session :=
  ExceptT.run (run elapsed arguments) { files }

end Command

end BellmanGrid
