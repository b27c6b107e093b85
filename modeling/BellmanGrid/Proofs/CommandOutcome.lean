import BellmanGrid.CommandLine.Run
import BellmanGrid.Proofs.Admission
import BellmanGrid.Proofs.ClosedFormOptimality
import BellmanGrid.Proofs.FileWrites
import BellmanGrid.Proofs.SweepAgreement

/-!
How a command ends whose solver has solved the problem.

The exact solution stands between the solver and the files: it is refused for a control weight that
is not positive and for a negative terminal weight, which the solver accepts.  Then nothing is
written of what the solver has found.  Otherwise the trajectory is written, and the solver and its
solution are handed back, unless a figure is asked for that cannot be drawn.
-/

namespace BellmanGrid

namespace Storage

/-- A row of a table that is granted is granted on its own. -/
theorem check_singleton {rows columns : Nat} (hrows : 0 < rows)
    (hgranted : check [rows, columns] = .ok ()) : check [columns] = .ok () := by
  rw [check_eq_ok_iff] at hgranted ⊢
  obtain ⟨haxes, hsize, hbytes⟩ := hgranted
  have hcells : columns ≤ rows * columns := Nat.le_mul_of_pos_left columns hrows
  simp only [extent, List.foldr_cons, List.foldr_nil, Nat.mul_one] at hbytes ⊢
  refine ⟨fun size hmem => haxes size (List.mem_cons_of_mem _ hmem), ?_, by omega⟩
  by_cases hcolumns : 0 < columns
  · simp only [List.filter_cons, decide_eq_true hrows, decide_eq_true hcolumns, if_true,
      List.filter_nil, extent, List.foldr_cons, List.foldr_nil, Nat.mul_one] at hsize ⊢
    omega
  · obtain rfl : columns = 0 := by omega
    decide

end Storage

namespace LinearQuadratic

variable {α : Type} [Number α] {system : LinearQuadratic α}

/-- The weights for which there is an exact solution. -/
def HasClosedForm (system : LinearQuadratic α) : Prop :=
  Number.atMost system.r Number.zero = false ∧
    Number.less system.terminalWeight Number.zero = false

/-- The exact solution from a state, over a horizon that can be stored. -/
theorem exists_solve {horizon : Int} (hweights : system.HasClosedForm) (hhorizon : 0 ≤ horizon)
    (hgranted : Storage.check [horizon.toNat + 1] = .ok ()) (state : α) :
    ∃ solution cost, system.solve horizon = .ok solution ∧
      solution.costToGo state 0 = .ok cost := by
  have hlength : 0 < (system.solveFrom system.terminalQuadratic horizon.toNat).costs.length := by
    rw [solveFrom, length_costsDownTo]
    omega
  refine ⟨system.solveFrom system.terminalQuadratic horizon.toNat, _, ?_,
    IsClosedForm.costToGo_eq (List.getElem?_eq_getElem hlength) state⟩
  have hnot : ¬ horizon < 0 := by omega
  simp only [solve, hweights.1, hweights.2, hgranted, if_neg hnot]
  rfl

/-- The weight that is refused: the one of the controls, unless that is positive. -/
def refused (system : LinearQuadratic α) : ClosedFormError α :=
  if Number.atMost system.r Number.zero then .controlWeight system.r
  else .terminalWeight system.terminalWeight

theorem solve_eq_error (hweights : ¬ system.HasClosedForm) (horizon : Int) :
    system.solve horizon = .error system.refused := by
  rw [solve, refused]
  cases hcontrol : Number.atMost system.r Number.zero with
  | true => rfl
  | false =>
      cases hterminal : Number.less system.terminalWeight Number.zero with
      | true => rfl
      | false => exact absurd ⟨hcontrol, hterminal⟩ hweights

end LinearQuadratic

namespace Command

variable {β γ : Type}

/-- What a command hands back when it starts in a session, and the session that it leaves. -/
def EndsWith (command : Command β) (before : Session) (outcome : Except CommandError β)
    (after : Session) : Prop :=
  ExceptT.run command before = (outcome, after)

section EndsWith

variable {first : Command β} {next : β → Command γ} {before between after : Session}

theorem EndsWith.bind {result : β} {outcome : Except CommandError γ}
    (hfirst : first.EndsWith before (.ok result) between)
    (hnext : (next result).EndsWith between outcome after) :
    (first >>= next).EndsWith before outcome after := by
  show ExceptT.bindCont next (ExceptT.run first before).1 (ExceptT.run first before).2 = _
  rw [show ExceptT.run first before = _ from hfirst]
  exact hnext

theorem EndsWith.bind_error {cause : CommandError}
    (hfirst : first.EndsWith before (.error cause) after) :
    (first >>= next).EndsWith before (.error cause) after := by
  show ExceptT.bindCont next (ExceptT.run first before).1 (ExceptT.run first before).2 = _
  rw [show ExceptT.run first before = _ from hfirst]
  rfl

theorem endsWith_pure (result : β) (session : Session) :
    (pure result : Command β).EndsWith session (.ok result) session :=
  rfl

theorem endsWith_require {ε : Type} (cause : ε → CommandError) (outcome : Except ε β)
    (session : Session) :
    (require cause outcome).EndsWith session (outcome.mapError cause) session := by
  cases outcome <;> rfl

theorem endsWith_require_ok {ε : Type} {outcome : Except ε β} {result : β}
    (houtcome : outcome = .ok result) (cause : ε → CommandError) (session : Session) :
    (require cause outcome).EndsWith session (.ok result) session := by
  rw [houtcome]
  exact endsWith_require cause _ session

theorem endsWith_withFiles {change : FileTree → Except FileError FileTree} {files : FileTree}
    (hchange : change before.files = .ok files) :
    (withFiles change).EndsWith before (.ok ()) { before with files } := by
  show ExceptT.run (withFiles change) before = _
  have hfirst : (require CommandError.file (change before.files)).EndsWith before (.ok files)
      before := endsWith_require_ok hchange _ _
  exact @EndsWith.bind _ _ get _ before before _ before _ rfl (EndsWith.bind hfirst rfl)

end EndsWith

end Command

namespace Assignment

variable {assignment : Assignment} {files : FileTree} {before : Session}

/-- Files take what an assignment writes: its directory stands, the log in it is open, and its other
paths lead to places for documents and drawings. -/
structure Accepts (assignment : Assignment) (files : FileTree) : Prop where
  directory : files.isDirectory assignment.directory = true
  log : ∃ content, files.read assignment.logPath = .ok content
  rows : files.CanWrite assignment.rowsPath
  figure : files.CanWrite assignment.figurePath

/-- What is written into the directory under one name leaves the files under other names as they
are. -/
theorem Accepts.exists_write (hfiles : assignment.Accepts files) {name : String}
    (hname : name ≠ "..") (hpath : files.CanWrite (assignment.directory.child name))
    {item : FileItem} (hitem : item ≠ .directory)
    (hlog : name = "solver.log" → ∃ content, item = .document content) :
    ∃ later, files.write (assignment.directory.child name) item = .ok later ∧
      assignment.Accepts later ∧
      (∀ content, item = .document content →
        later.read (assignment.directory.child name) = .ok content) ∧
      ∀ other, other ≠ ".." → other ≠ name → files.CanWrite (assignment.directory.child other) →
        later.read (assignment.directory.child other) =
          files.read (assignment.directory.child other) := by
  obtain ⟨place, hplace, hfree⟩ := hpath
  have hself : ∀ content, item = .document content →
      (files.put place item).read (assignment.directory.child name) = .ok content := by
    rintro content rfl
    exact FileTree.read_put_self hplace hfree content
  have hothers : ∀ other, other ≠ ".." → other ≠ name →
      files.CanWrite (assignment.directory.child other) →
        (files.put place item).read (assignment.directory.child other) =
          files.read (assignment.directory.child other) := by
    rintro other hother hne ⟨found, hfound, _⟩
    exact FileTree.read_put_of_ne hfound
      (FileTree.placeOf_child_ne hother hname hne hfound hplace) hfree hitem
  refine ⟨files.put place item, FileTree.write_eq_ok hplace hfree item, ⟨?_, ?_, ?_, ?_⟩, hself,
    hothers⟩
  · exact FileTree.isDirectory_put hfree hitem hfiles.directory
  · by_cases hopen : "solver.log" = name
    · obtain ⟨content, hcontent⟩ := hlog hopen.symm
      subst hopen
      exact ⟨content, hself content hcontent⟩
    · obtain ⟨content, hcontent⟩ := hfiles.log
      have hcan : files.CanWrite assignment.logPath := FileTree.canWrite_of_read hcontent
      exact ⟨content, (hothers "solver.log" (by decide) hopen hcan).trans hcontent⟩
  · exact FileTree.canWrite_put hfree hitem hfiles.rows
  · exact FileTree.canWrite_put hfree hitem hfiles.figure

/-- The log takes more lines, and the lines of the trajectory stay as they are. -/
theorem Accepts.exists_append (hfiles : assignment.Accepts files) (text : String) :
    ∃ later, files.append assignment.logPath text = .ok later ∧ assignment.Accepts later ∧
      later.read assignment.rowsPath = files.read assignment.rowsPath := by
  obtain ⟨content, hcontent⟩ := hfiles.log
  have hname : "solver.log" ≠ ".." := by decide
  have hrowsName : "trajectory.csv" ≠ ".." := by decide
  have hne : "trajectory.csv" ≠ "solver.log" := by decide
  have hitem : FileItem.document (content ++ text) ≠ .directory := nofun
  obtain ⟨later, hwrite, haccepts, _, hothers⟩ :=
    hfiles.exists_write hname (FileTree.canWrite_of_read hcontent) hitem fun _ => ⟨_, rfl⟩
  refine ⟨later, ?_, haccepts, hothers _ hrowsName hne hfiles.rows⟩
  rw [FileTree.append, hcontent]
  exact hwrite

/-- A session that comes after another one: its files take what is still to be written, and the
lines of the trajectory are what they were. -/
structure Continues (assignment : Assignment) (before after : Session) : Prop where
  accepts : assignment.Accepts after.files
  rows : after.files.read assignment.rowsPath = before.files.read assignment.rowsPath

theorem Continues.trans {between after : Session} (hfirst : assignment.Continues before between)
    (hsecond : assignment.Continues between after) : assignment.Continues before after :=
  ⟨hsecond.accepts, hsecond.rows.trans hfirst.rows⟩

/-! ### The steps of a run -/

theorem record_endsWith (hfiles : assignment.Accepts before.files) (records : List LogRecord) :
    ∃ after, (assignment.record records).EndsWith before (.ok ()) after ∧
      assignment.Continues before after := by
  obtain ⟨later, hlater, haccepts, hrows⟩ := hfiles.exists_append (String.join
    ((records.filter fun record => assignment.verbose || record.level = .info).map LogRecord.line))
  refine ⟨{ before with files := later }, ?_, haccepts, hrows⟩
  rw [record]
  exact Command.endsWith_withFiles hlater

/-- Both grids build, the solver is made from them, and it has a solution for the initial state and
the horizon. -/
structure Solves (assignment : Assignment) (solver : Solver)
    (solution : Solution Float solver.task) : Prop where
  grids : ∃ states controls,
    Grid.range "state" assignment.config.states.lower assignment.config.states.upper
      assignment.config.states.step = .ok states ∧
    Grid.range "control" assignment.config.controls.lower assignment.config.controls.upper
      assignment.config.controls.step = .ok controls ∧
    Solver.ofParts (.problem (assignment.system.problem true)) (.grid states) (.grid controls)
      (.integer assignment.config.execution.workers)
      (.integer assignment.config.execution.chunkSize) = .ok solver
  run : solver.run (.real assignment.config.problem.initial)
    (.integer assignment.config.problem.horizon) = .ok solution

variable {solver : Solver} {solution : Solution Float solver.task}

theorem solver_endsWith (hfiles : assignment.Accepts before.files)
    (hsolves : assignment.Solves solver solution) :
    ∃ after, assignment.solver.EndsWith before (.ok solver) after ∧
      assignment.Continues before after := by
  obtain ⟨states, controls, hstates, hcontrols, hsolver⟩ := hsolves.grids
  obtain ⟨after, hrecord, hcontinues⟩ := record_endsWith hfiles [
    .command s!"Problem: {assignment.system.description}",
    .command s!"Grids: {states.description}, {controls.description}"]
  refine ⟨after, ?_, hcontinues⟩
  rw [Assignment.solver]
  exact .bind (Command.endsWith_require_ok hstates _ _)
    (.bind (Command.endsWith_require_ok hcontrols _ _)
      (.bind hrecord (Command.endsWith_require_ok hsolver _ _)))

/-- What a solver's solution is found by, step by step. -/
theorem Solves.steps (hsolves : assignment.Solves solver solution) :
    0 ≤ assignment.config.problem.horizon ∧ ∃ initial table,
      checkInitialState (.real assignment.config.problem.initial) = .ok initial ∧
      solver.task.solve solver.execution assignment.config.problem.horizon.toNat = .ok table ∧
      solver.task.replay table initial = .ok solution := by
  have hrun := hsolves.run
  rw [Solver.run] at hrun
  obtain ⟨initial, hinitial, hrun⟩ := bind_eq_ok_iff.mp hrun
  obtain ⟨horizon, hhorizon, hrun⟩ := bind_eq_ok_iff.mp hrun
  obtain ⟨table, htable, hreplay⟩ := bind_eq_ok_iff.mp hrun
  rw [mapError_eq_ok_iff] at hinitial hhorizon htable
  rw [checkHorizon_eq_ok_iff, Value.integer.injEq] at hhorizon
  rw [hhorizon, Int.toNat_natCast]
  exact ⟨Int.natCast_nonneg horizon, initial, table, hinitial, htable, hreplay⟩

theorem solution_endsWith (hfiles : assignment.Accepts before.files)
    (hsolves : assignment.Solves solver solution) :
    ∃ after, (assignment.solution solver).EndsWith before (.ok solution) after ∧
      assignment.Continues before after := by
  obtain ⟨hlength, initial, table, hinitial, htable, hreplay⟩ := hsolves.steps
  have hhorizon : checkHorizon (.integer assignment.config.problem.horizon) =
      .ok assignment.config.problem.horizon.toNat := by
    rw [checkHorizon_eq_ok_iff, Int.toNat_of_nonneg hlength]
  obtain ⟨started, hstarted, hfirst⟩ := record_endsWith hfiles
    [.sweepStarted solver assignment.config.problem.horizon.toNat]
  obtain ⟨swept, hswept, hsecond⟩ := record_endsWith hfirst.accepts
    (LogRecord.timesFinished assignment.config.problem.horizon.toNat 0 ++
      [.sweepFinished assignment.elapsed table])
  obtain ⟨replayed, hreplayed, hthird⟩ := record_endsWith hsecond.accepts
    [.replayFinished initial solution.trajectory.cost]
  refine ⟨replayed, ?_, (hfirst.trans hsecond).trans hthird⟩
  rw [Assignment.solution]
  refine .bind (Command.endsWith_require_ok hinitial _ _)
    (.bind (Command.endsWith_require_ok hhorizon _ _) (.bind hstarted ?_))
  rw [htable]
  exact .bind hswept (.bind (Command.endsWith_require_ok hreplay _ _)
    (.bind hreplayed (Command.endsWith_pure _ _)))

theorem compare_endsWith_ok (hfiles : assignment.Accepts before.files)
    (hsolves : assignment.Solves solver solution) (hweights : assignment.system.HasClosedForm) :
    ∃ after, (assignment.compare solution).EndsWith before (.ok ()) after ∧
      assignment.Continues before after := by
  obtain ⟨hlength, initial, table, _, htable, _⟩ := hsolves.steps
  obtain ⟨⟨size, hsize⟩, _⟩ := (GridProblem.solveScheduled_eq_ok_iff_sweepDown table).mp htable
  obtain ⟨hstates, hgranted, _⟩ := Table.checkSize_eq_ok_iff.mp hsize
  obtain ⟨exact, reference, hexact, hreference⟩ := LinearQuadratic.exists_solve hweights hlength
    (Storage.check_singleton hstates hgranted) assignment.config.problem.initial
  obtain ⟨after, hrecord, hcontinues⟩ := record_endsWith hfiles
    [.command (s!"Closed-form LQ cost {Decimal.fixed 6 reference}, " ++
      s!"grid DP cost {Decimal.fixed 6 solution.trajectory.cost} " ++
      s!"(difference {Decimal.scientific 3 (solution.trajectory.cost - reference)})")]
  refine ⟨after, ?_, hcontinues⟩
  rw [compare]
  exact .bind (Command.endsWith_require_ok hexact _ _)
    (.bind (Command.endsWith_require_ok hreference _ _) hrecord)

theorem compare_endsWith_error (hweights : ¬ assignment.system.HasClosedForm)
    (solution : Solution Float solver.task) (before : Session) :
    (assignment.compare solution).EndsWith before
      (.error (.closedForm assignment.system.refused)) before := by
  rw [compare, LinearQuadratic.solve_eq_error hweights]
  exact .bind_error (Command.endsWith_require _ _ _)

theorem saveRows_endsWith (hfiles : assignment.Accepts before.files)
    (trajectory : Trajectory Float) :
    ∃ after, (assignment.saveRows trajectory).EndsWith before (.ok ()) after ∧
      assignment.Accepts after.files ∧
      after.files.read assignment.rowsPath = .ok trajectory.document := by
  have hensure : before.files.ensureDirectory assignment.directory = .ok before.files :=
    FileTree.ensureDirectory_of_isDirectory hfiles.directory
  have hname : "trajectory.csv" ≠ ".." := by decide
  have hitem : FileItem.document trajectory.document ≠ .directory := nofun
  obtain ⟨written, hwritten, haccepts, hrows, _⟩ :=
    hfiles.exists_write hname hfiles.rows hitem fun _ => ⟨_, rfl⟩
  obtain ⟨saved, hsaved, hcontinues⟩ := @record_endsWith assignment { before with files := written }
    haccepts [.command s!"Trajectory written to {assignment.rowsPath.text}"]
  refine ⟨saved, ?_, hcontinues.accepts, hcontinues.rows.trans (hrows _ rfl)⟩
  rw [saveRows]
  exact .bind (Command.endsWith_withFiles hensure)
    (.bind (Command.endsWith_withFiles hwritten) hsaved)

/-- No figure is asked for, or it can be drawn. -/
def Draws (assignment : Assignment) (trajectory : Trajectory Float) : Prop :=
  assignment.figure = true → ∃ figure, assignment.figureOf trajectory = .ok figure

theorem saveFigure_endsWith_ok (hfiles : assignment.Accepts before.files)
    {trajectory : Trajectory Float} (hdraws : assignment.Draws trajectory) :
    ∃ after, (assignment.saveFigure trajectory).EndsWith before (.ok ()) after ∧
      assignment.Continues before after := by
  by_cases hasked : assignment.figure = true
  · obtain ⟨figure, hfigure⟩ := hdraws hasked
    have hname : "trajectory.png" ≠ ".." := by decide
    have hrowsName : "trajectory.csv" ≠ ".." := by decide
    have hne : "trajectory.csv" ≠ "trajectory.png" := by decide
    have hlog : "trajectory.png" ≠ "solver.log" := by decide
    have hitem : FileItem.drawing figure ≠ .directory := nofun
    obtain ⟨written, hwritten, haccepts, _, hothers⟩ :=
      hfiles.exists_write hname hfiles.figure hitem fun hopen => absurd hopen hlog
    obtain ⟨saved, hsaved, hcontinues⟩ :=
      @record_endsWith assignment { before with files := written } haccepts
        [.command s!"Plot saved to {assignment.figurePath.text}"]
    refine ⟨saved, ?_, hcontinues.accepts,
      hcontinues.rows.trans (hothers _ hrowsName hne hfiles.rows)⟩
    rw [saveFigure, if_pos hasked]
    exact .bind (Command.endsWith_require_ok hfigure _ _)
      (.bind (Command.endsWith_withFiles hwritten) hsaved)
  · refine ⟨before, ?_, hfiles, rfl⟩
    rw [saveFigure, if_neg hasked]
    exact Command.endsWith_pure _ _

theorem saveFigure_endsWith_error {trajectory : Trajectory Float}
    (hdraws : ¬ assignment.Draws trajectory) (before : Session) :
    ∃ cause, assignment.figureOf trajectory = .error cause ∧
      (assignment.saveFigure trajectory).EndsWith before (.error (.figure cause)) before := by
  rw [Draws, Classical.not_imp] at hdraws
  obtain ⟨hasked, hnone⟩ := hdraws
  rw [saveFigure, if_pos hasked]
  cases hfigure : assignment.figureOf trajectory with
  | ok figure => exact absurd ⟨figure, hfigure⟩ hnone
  | error cause => exact ⟨cause, rfl, .bind_error (Command.endsWith_require _ _ _)⟩

/-! ### Whole runs -/

/-- A run whose problem has weights without an exact solution stops at the one that is refused, and
nothing of what its solver has found is written. -/
theorem run_endsWith_error (hfiles : assignment.Accepts before.files)
    (hsolves : assignment.Solves solver solution) (hweights : ¬ assignment.system.HasClosedForm) :
    ∃ after, assignment.run.EndsWith before (.error (.closedForm assignment.system.refused)) after ∧
      after.files.read assignment.rowsPath = before.files.read assignment.rowsPath := by
  obtain ⟨made, hmade, hfirst⟩ := solver_endsWith hfiles hsolves
  obtain ⟨solved, hsolved, hsecond⟩ := solution_endsWith hfirst.accepts hsolves
  refine ⟨solved, ?_, (hfirst.trans hsecond).rows⟩
  rw [Assignment.run]
  exact .bind hmade (.bind hsolved (.bind_error (compare_endsWith_error hweights _ _)))

/-- A run whose problem has an exact solution writes the trajectory, and hands back the solver and
its solution unless a figure is asked for that cannot be drawn. -/
theorem run_endsWith_ok (hfiles : assignment.Accepts before.files)
    (hsolves : assignment.Solves solver solution) (hweights : assignment.system.HasClosedForm) :
    ∃ outcome after, assignment.run.EndsWith before outcome after ∧
      after.files.read assignment.rowsPath = .ok solution.trajectory.document ∧
      (assignment.Draws solution.trajectory → outcome = .ok ⟨solver, solution⟩) ∧
      (¬ assignment.Draws solution.trajectory → ∃ cause,
        assignment.figureOf solution.trajectory = .error cause ∧
          outcome = .error (.figure cause)) := by
  obtain ⟨made, hmade, hfirst⟩ := solver_endsWith hfiles hsolves
  obtain ⟨solved, hsolved, hsecond⟩ := solution_endsWith hfirst.accepts hsolves
  obtain ⟨compared, hcompared, hthird⟩ := compare_endsWith_ok hsecond.accepts hsolves hweights
  obtain ⟨written, hwritten, haccepts, hrows⟩ :=
    saveRows_endsWith hthird.accepts solution.trajectory
  by_cases hdraws : assignment.Draws solution.trajectory
  · obtain ⟨drawn, hdrawn, hlast⟩ := saveFigure_endsWith_ok haccepts hdraws
    refine ⟨.ok ⟨solver, solution⟩, drawn, ?_, hlast.rows.trans hrows, fun _ => rfl,
      fun hnot => absurd hdraws hnot⟩
    rw [Assignment.run]
    exact .bind hmade (.bind hsolved (.bind hcompared (.bind hwritten (.bind hdrawn
      (Command.endsWith_pure _ _)))))
  · obtain ⟨cause, hfigure, hcause⟩ := saveFigure_endsWith_error hdraws written
    refine ⟨.error (.figure cause), written, ?_, hrows, fun h => absurd h hdraws,
      fun _ => ⟨cause, hfigure, rfl⟩⟩
    rw [Assignment.run]
    exact .bind hmade (.bind hsolved (.bind hcompared (.bind hwritten (.bind_error hcause))))

/-- A run whose solver has found a solution hands it back exactly when the weights have an exact
solution and no figure stands in the way.  For such weights the trajectory is written.  For others
the run stops at the weight that is refused, and nothing of what was found is written. -/
theorem run_outcome (hfiles : assignment.Accepts before.files)
    (hsolves : assignment.Solves solver solution) :
    ∃ outcome after, assignment.run.EndsWith before outcome after ∧
      (outcome = .ok ⟨solver, solution⟩ ↔
        assignment.system.HasClosedForm ∧ assignment.Draws solution.trajectory) ∧
      (assignment.system.HasClosedForm →
        after.files.read assignment.rowsPath = .ok solution.trajectory.document ∧
        (¬ assignment.Draws solution.trajectory → ∃ cause,
          assignment.figureOf solution.trajectory = .error cause ∧
            outcome = .error (.figure cause))) ∧
      (¬ assignment.system.HasClosedForm →
        after.files.read assignment.rowsPath = before.files.read assignment.rowsPath ∧
          outcome = .error (.closedForm assignment.system.refused)) := by
  by_cases hweights : assignment.system.HasClosedForm
  · obtain ⟨outcome, after, hends, hrows, hok, herror⟩ := run_endsWith_ok hfiles hsolves hweights
    refine ⟨outcome, after, hends, ⟨fun houtcome => ⟨hweights, ?_⟩, fun h => hok h.2⟩,
      fun _ => ⟨hrows, herror⟩, absurd hweights⟩
    by_contra hdraws
    obtain ⟨cause, _, hcause⟩ := herror hdraws
    rw [houtcome] at hcause
    cases hcause
  · obtain ⟨after, hends, hrows⟩ := run_endsWith_error hfiles hsolves hweights
    exact ⟨.error (.closedForm assignment.system.refused), after, hends,
      iff_of_false nofun fun h => hweights h.1, fun h => absurd h hweights,
      fun _ => ⟨hrows, rfl⟩⟩

end Assignment

/-! ### A small assignment -/

namespace Tracking

/-- Three states, three controls and one step, with a weight for the controls. -/
def assignment (weight : Float) : Assignment where
  config := {
    problem := {
      a := 1.0, b := 1.0, q := 1.0, r := weight, terminalWeight := 1.0, target := 0.0,
      initial := 1.0, horizon := 1 }
    states := ⟨-1.0, 1.0, 1.0⟩
    controls := ⟨-1.0, 1.0, 1.0⟩ }
  directory := ⟨"", ["output"]⟩
  figure := false
  verbose := false
  elapsed := "0.00"

/-- A session with the directory and an open log. -/
def session : Session where
  files := ⟨[(⟨"", ["output"]⟩, .directory), (⟨"", ["output", "solver.log"]⟩, .document "")]⟩

theorem placeOf_directory : session.files.placeOf ⟨"", ["output"]⟩ = .ok ⟨"", ["output"]⟩ :=
  FileTree.placeOf_eq_ok_iff.mpr ⟨by decide +kernel, by simp, rfl⟩

theorem placeOf_file {name : String}
    (hname : name = "solver.log" ∨ name = "trajectory.csv" ∨ name = "trajectory.png") :
    session.files.placeOf ⟨"", ["output", name]⟩ = .ok ⟨"", ["output", name]⟩ := by
  rw [FileTree.placeOf_eq_ok_iff]
  rcases hname with rfl | rfl | rfl <;> exact ⟨by decide +kernel, by simp, rfl⟩

theorem read_log : session.files.read ⟨"", ["output", "solver.log"]⟩ = .ok "" := by
  rw [FileTree.read, placeOf_file (Or.inl rfl)]
  rfl

theorem read_rows : session.files.read ⟨"", ["output", "trajectory.csv"]⟩ =
    .error (.notFound ⟨"", ["output", "trajectory.csv"]⟩) := by
  rw [FileTree.read, placeOf_file (Or.inr (Or.inl rfl))]
  rfl

theorem accepts (weight : Float) : (assignment weight).Accepts session.files where
  directory := FileTree.isDirectory_iff.mpr ⟨_, placeOf_directory, rfl⟩
  log := ⟨"", read_log⟩
  rows := ⟨_, placeOf_file (Or.inr (Or.inl rfl)), nofun⟩
  figure := ⟨_, placeOf_file (Or.inr (Or.inr rfl)), nofun⟩

/-- The solver and its solution, computed. -/
def found? (assignment : Assignment) : Option (Σ solver : Solver, Solution Float solver.task) := do
  let states ← (Grid.range "state" assignment.config.states.lower assignment.config.states.upper
    assignment.config.states.step).toOption
  let controls ← (Grid.range "control" assignment.config.controls.lower
    assignment.config.controls.upper assignment.config.controls.step).toOption
  let solver ← (Solver.ofParts (.problem (assignment.system.problem true)) (.grid states)
    (.grid controls) (.integer assignment.config.execution.workers)
    (.integer assignment.config.execution.chunkSize)).toOption
  let solution ← (solver.run (.real assignment.config.problem.initial)
    (.integer assignment.config.problem.horizon)).toOption
  return ⟨solver, solution⟩

theorem solves_of_found? {assignment : Assignment} {solver : Solver}
    {solution : Solution Float solver.task}
    (hfound : found? assignment = some ⟨solver, solution⟩) : assignment.Solves solver solution := by
  obtain ⟨states, hstates, hfound⟩ := Option.bind_eq_some_iff.mp hfound
  obtain ⟨controls, hcontrols, hfound⟩ := Option.bind_eq_some_iff.mp hfound
  obtain ⟨made, hmade, hfound⟩ := Option.bind_eq_some_iff.mp hfound
  obtain ⟨run, hrun, hfound⟩ := Option.bind_eq_some_iff.mp hfound
  cases Option.some.inj hfound
  rw [toOption_eq_some_iff] at hstates hcontrols hmade hrun
  exact ⟨⟨states, controls, hstates, hcontrols, hmade⟩, hrun⟩

end Tracking

namespace Assignment

/-- With a control weight of one the small problem goes through. -/
theorem tracking_run_outcome :
    ∃ solver solution after, (Tracking.assignment 1.0).Accepts Tracking.session.files ∧
      (Tracking.assignment 1.0).Solves solver solution ∧
      (Tracking.assignment 1.0).run.EndsWith Tracking.session (.ok ⟨solver, solution⟩) after ∧
      after.files.read (Tracking.assignment 1.0).rowsPath = .ok solution.trajectory.document := by
  have hsome : (Tracking.found? (Tracking.assignment 1.0)).isSome = true := by decide +kernel
  obtain ⟨⟨solver, solution⟩, hfound⟩ := Option.isSome_iff_exists.mp hsome
  have hsolves := Tracking.solves_of_found? hfound
  have hweights : (Tracking.assignment 1.0).system.HasClosedForm :=
    ⟨by decide +kernel, by decide +kernel⟩
  obtain ⟨outcome, after, hends, hok, hwritten, _⟩ :=
    run_outcome (Tracking.accepts 1.0) hsolves
  obtain rfl := hok.mpr ⟨hweights, nofun⟩
  exact ⟨solver, solution, after, Tracking.accepts 1.0, hsolves, hends, (hwritten hweights).1⟩

/-- With a control weight of zero the same problem is solved, but its solution is not written. -/
theorem exists_solved_unwritten :
    ∃ solver solution after, (Tracking.assignment 0.0).Accepts Tracking.session.files ∧
      (Tracking.assignment 0.0).Solves solver solution ∧
      (Tracking.assignment 0.0).run.EndsWith Tracking.session
        (.error (.closedForm (.controlWeight 0.0))) after ∧
      after.files.read (Tracking.assignment 0.0).rowsPath =
        .error (.notFound (Tracking.assignment 0.0).rowsPath) := by
  have hsome : (Tracking.found? (Tracking.assignment 0.0)).isSome = true := by decide +kernel
  obtain ⟨⟨solver, solution⟩, hfound⟩ := Option.isSome_iff_exists.mp hsome
  have hsolves := Tracking.solves_of_found? hfound
  have hzero : Number.atMost (Tracking.assignment 0.0).system.r Number.zero = true := by
    decide +kernel
  have hrefused : (Tracking.assignment 0.0).system.refused = .controlWeight 0.0 := if_pos hzero
  have hweights : ¬ (Tracking.assignment 0.0).system.HasClosedForm :=
    fun h => Bool.false_ne_true (h.1.symm.trans hzero)
  obtain ⟨after, hends, hrows⟩ := run_endsWith_error (Tracking.accepts 0.0) hsolves hweights
  rw [hrefused] at hends
  exact ⟨solver, solution, after, Tracking.accepts 0.0, hsolves, hends,
    hrows.trans Tracking.read_rows⟩

end Assignment

end BellmanGrid
