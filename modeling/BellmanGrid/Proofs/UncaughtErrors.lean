import BellmanGrid.Proofs.SweepOutcomes

/-!
Failures of a solve, and those among them that no callback is named for.

A callback that raises or hands back no finite number is reported with the point where it was
called.  The exceptions are the values that escape the checks and what is raised without a text that
can be written, and it takes a callback with one of these replies to make a solve fail in any other
way.
-/

namespace BellmanGrid

namespace Problem

variable {α : Type}

/-- A terminal cost with one reply to every state, and one to all of them at once. -/
def replying (point : Reply Float) (block : Reply (Tensor Float)) (vectorized : Bool) :
    Problem Float :=
  { ofFunctions "FunctionProblem" vectorized (fun _ state _ => state)
      (fun _ _ _ => Number.ofInt 0) (fun _ state => state) with
    terminalCost := fun _ _ => point
    terminalCostBlock := fun _ _ => block }

section Replying

variable {point : Reply Float} {block : Reply (Tensor Float)} {error : EvaluationError Float}
  (states controls : Grid Float) (execution : Execution) {horizon : Nat} {size : Nat × Nat}

/-- A reply at a point that ends its evaluation ends every solve by points. -/
theorem solve_replying_at_points (hescapes : point.Escapes Value.EscapesAtPoint error)
    (hsize : Table.checkSize states.size horizon = .ok size) :
    GridProblem.solve ⟨replying point block false, states, controls⟩ execution horizon =
      .error (.evaluation error) := by
  obtain ⟨first, rest, hpoints⟩ := List.exists_cons_of_length_pos states.nonempty
  have hfirst : (replying point block false).evaluate .terminalCost first none horizon =
      .error error :=
    evaluate_of_escapes (GridProblem.isWritableTime_of_granted hsize (Nat.le_refl horizon)) hescapes
  have hcosts : GridProblem.terminalCosts ⟨replying point block false, states, controls⟩ horizon =
      .error error := by
    show states.points.toList.mapM _ = _
    rw [hpoints, List.mapM_cons, hfirst]
    rfl
  rw [GridProblem.solve, GridProblem.solveScheduled_of_granted hsize, hcosts]
  rfl

/-- A reply on a block that ends its evaluation ends every solve by blocks. -/
theorem solve_replying_on_blocks (hescapes : block.Escapes Value.EscapesOnBlock error)
    (hsize : Table.checkSize states.size horizon = .ok size) :
    GridProblem.solve ⟨replying point block true, states, controls⟩ execution horizon =
      .error (.evaluation error) := by
  have hpoints : 0 < extent [states.size] := by simpa [extent] using states.size_pos
  have hblock : (replying point block true).evaluateBlock .terminalCost (Tensor.row states.points)
      none horizon [states.size] = .error error :=
    evaluateBlock_of_escapes (GridProblem.isWritableTime_of_granted hsize (Nat.le_refl horizon))
      (Tensor.fits_row states.points) rfl hpoints hescapes
  have hcosts : GridProblem.terminalCosts ⟨replying point block true, states, controls⟩ horizon =
      .error error := by
    show ((replying point block true).evaluateBlock .terminalCost (Tensor.row states.points) none
      horizon [states.size]).map _ = _
    rw [hblock]
    rfl
  rw [GridProblem.solve, GridProblem.solveScheduled_of_granted hsize, hcosts]
  rfl

end Replying

/-- Whatever callbacks do, evaluation at a point gives a finite number, and evaluation of a block a
finite number for each position.  Otherwise they fail, and so does a solve, by a failure of the
callback that has its time and a point that was evaluated, or by an error of another kind.  The
error of a conversion happens just when the callback handed back a value that escapes the checks,
and an exception leaves unreported just when the callback raised one whose text it takes the place
of.  Besides, a block may have no point, or get states or controls that do not fit it, a time may be
too long to be written, which no time of a solve is, and a solve may be refused its table. -/
theorem evaluation_outcomes [Number α] [LawfulConversion α] (problem : Problem α) :
    (∀ role state control time,
      Ensures (fun number => Number.isFinite number = true)
        (problem.FailsAt role state control time) (problem.evaluate role state control time) ∧
      (IsWritableTime time → ∀ cause,
        problem.evaluate role state control time = .error (.uncaught cause) ↔
          ∃ value, problem.callAt role state control time = .other value ∧
            value.EscapesAtPoint cause) ∧
      ∀ cause, problem.evaluate role state control time = .error (.unwritten cause) ↔
        ∃ kind, problem.callAt role state control time = .raised (.unwritten kind cause)) ∧
    (∀ role states controls time shape,
      Ensures (fun entries : Vector α (extent shape) =>
          ∀ position, Number.isFinite (entries.get position) = true)
        (problem.FailsOnBlock role states controls time shape)
        (problem.evaluateBlock role states controls time shape) ∧
      (IsWritableTime time → ∀ cause,
        problem.evaluateBlock role states controls time shape = .error (.uncaught cause) ↔
          states.fits shape = true ∧ controls.any (!·.fits shape) = false ∧
            ∃ value, problem.callOnBlock role states controls time = .other value ∧
              value.EscapesOnBlock cause) ∧
      ∀ cause, problem.evaluateBlock role states controls time shape = .error (.unwritten cause) ↔
        states.fits shape = true ∧ controls.any (!·.fits shape) = false ∧ 0 < extent shape ∧
          ∃ kind, problem.callOnBlock role states controls time =
            .raised (.unwritten kind cause)) ∧
    ∀ (states controls : Grid α) (execution : Execution) (horizon : Nat) (error : SolveError α),
      GridProblem.solve ⟨problem, states, controls⟩ execution horizon = .error error →
        (∃ cause, error = .table cause ∧ Table.checkSize states.size horizon = .error cause) ∨
        ∃ time ≤ horizon, IsWritableTime time ∧ ∃ cause, error = .evaluation cause ∧
          GridProblem.FailsAt ⟨problem, states, controls⟩ time cause := by
  refine ⟨?_, ?_, ?_⟩
  · intro role state control time
    exact ⟨problem.evaluate_ensures role state control time,
      problem.evaluate_eq_uncaught_iff role state control,
      problem.evaluate_eq_unwritten_iff role state control time⟩
  · intro role states controls time shape
    exact ⟨problem.evaluateBlock_ensures role states controls time shape,
      fun htime => problem.evaluateBlock_eq_uncaught_iff role states controls htime shape,
      problem.evaluateBlock_eq_unwritten_iff role states controls time shape⟩
  · intro states controls execution horizon error hsolve
    rcases (GridProblem.solveScheduled_ensures execution Schedule.sequential_reorders
      horizon).admitted_of_error hsolve with hrefused | ⟨time, htime, cause, rfl, hfails⟩
    · exact .inl hrefused
    · have hhorizon := GridProblem.isWritableTime_of_solve hsolve
      exact .inr ⟨time, htime, hhorizon.of_le htime, cause, rfl, hfails⟩

/-- An integer beyond the largest double ends the evaluation of a terminal cost and a solve. -/
theorem tracking_evaluation_outcomes :
    (replying (.other (.integer (10 ^ 400))) (.other .null) false).evaluate .terminalCost
        (Number.ofInt 0) none 0 = .error (.uncaught (.entry .tooLarge)) ∧
    ∃ time : Nat, time ≤ 1 ∧ GridProblem.FailsAt ⟨replying (.other (.integer (10 ^ 400)))
      (.other .null) false, Tracking.grid, Tracking.grid⟩ time (.uncaught (.entry .tooLarge)) := by
  have hlarge : integerLimit ≤ (10 ^ 400 : Int).natAbs := by decide +kernel
  have hstart : IsWritableTime 0 := by decide +kernel
  obtain ⟨hpoint, -, hsolve⟩ :=
    evaluation_outcomes (replying (.other (.integer (10 ^ 400))) (.other .null) false)
  constructor
  · exact ((hpoint .terminalCost _ none 0).2.1 hstart _).mpr ⟨_, rfl, .tooLarge hlarge⟩
  · obtain ⟨_, htable, _⟩ | ⟨time, htime, -, cause, hcause, hfails⟩ := hsolve Tracking.grid
        Tracking.grid .standard 1 _
        (solve_replying_at_points _ _ _ (.value (.tooLarge hlarge)) rfl)
    · cases htable
    · cases hcause
      exact ⟨time, htime, hfails⟩

/-- A large integer ends a solve without a report of the callback, in both modes, and so does an
exception that cannot be written; lists without a common shape do it on blocks, and a list with an
integer too long to be written does it at a point.  No callback is reported at a time that is too
long. -/
theorem exists_uncaught_errors :
    (∀ vectorized, GridProblem.solve ⟨replying (.other (.integer (10 ^ 400)))
      (.other (.integer (10 ^ 400))) vectorized, Tracking.grid, Tracking.grid⟩ .standard 1 =
        .error (.evaluation (.uncaught (.entry .tooLarge)))) ∧
    (∀ vectorized, GridProblem.solve ⟨replying (.raised Tracking.tooLong)
      (.raised Tracking.tooLong) vectorized, Tracking.grid, Tracking.grid⟩ .standard 1 =
        .error (.evaluation (.unwritten (.ofError ConversionError.unwritable)))) ∧
    GridProblem.solve ⟨replying (.other .null)
        (.other (.list [.list [.integer 1, .integer 2], .list [.integer 3]])) true,
      Tracking.grid, Tracking.grid⟩ .standard 1 =
        .error (.evaluation (.uncaught (.ragged [2]))) ∧
    GridProblem.solve ⟨replying (.other (.list [.integer (10 ^ 4300)])) (.other .null) false,
      Tracking.grid, Tracking.grid⟩ .standard 1 =
        .error (.evaluation (.uncaught (.entry .unwritable))) ∧
    (replying (.other .null) (.other .null) false).evaluate .terminalCost (Number.ofInt 0) none
      (10 ^ 4300) = .error (.uncaught (.entry .unwritable)) := by
  have hlarge : integerLimit ≤ (10 ^ 400 : Int).natAbs := by decide +kernel
  have hshape : Value.shape Value.axisLimit
      (.list [.list [.integer 1, .integer 2], .list [.integer 3]]) = .error (.ragged [2]) := by
    simp [Value.shape, Value.findShape, Value.findListShape, Value.findShapes, Value.axisLimit,
      ShapeSearch.list, ShapeSearch.entry]
  have hlong : (Value.list [.integer (10 ^ 4300)]).isWritable = false := by decide +kernel
  have hother : ∀ number, Value.list [.integer (10 ^ 4300)] ≠ .integer number := by
    intro number hequal
    cases hequal
  have htime : ¬ IsWritableTime (10 ^ 4300) := by decide +kernel
  refine ⟨?_, ?_, ?_, ?_, ?_⟩
  · intro vectorized
    cases vectorized with
    | true => exact solve_replying_on_blocks _ _ _ (.value (.integer hlarge)) rfl
    | false => exact solve_replying_at_points _ _ _ (.value (.tooLarge hlarge)) rfl
  · intro vectorized
    cases vectorized with
    | true => exact solve_replying_on_blocks _ _ _ (.exception _ _) rfl
    | false => exact solve_replying_at_points _ _ _ (.exception _ _) rfl
  · exact solve_replying_on_blocks _ _ _ (.value (.shapeless hshape)) rfl
  · exact solve_replying_at_points _ _ _ (.value (.unwritable hother hlong)) rfl
  · exact congrArg Except.error (CallbackFailure.report_eq_uncaught htime)

end Problem

end BellmanGrid
