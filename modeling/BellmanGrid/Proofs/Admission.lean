import BellmanGrid.Proofs.EvaluationOutcomes
import BellmanGrid.Proofs.Tracking
import BellmanGrid.Solution.Basic

/-!
What a run is started with.

A run looks at its initial state and then at its horizon, and starts only if both are what they have
to be.  A refusal is the same for all solvers, so none of their callbacks has a part in it.
-/

namespace BellmanGrid

/-! ### Initial states -/

/-- The value is converted to the number, and that is finite. -/
def Value.StandsFor (given : Value) (number : Float) : Prop :=
  given.toReal = .ok number ∧ Number.isFinite number = true

/-- An initial state is refused as one, unless its conversion ends in an error of its own. -/
inductive RefusesInitialState (given : Value) (cause : InitialStateError) : Prop
  | invalid (hcaught : ∀ escape, ¬ given.EscapesAtPoint escape)
      (hkind : kind cause = .invalidInitialState)
  | uncaught {escape : ArrayError} (hescapes : given.EscapesAtPoint escape)
      (hkind : kind cause = kind escape) (hmessage : message cause = message escape)

theorem nonFinite_ofFloat?_eq_none_iff {number : Float} :
    NonFinite.ofFloat? number = none ↔ Number.isFinite number = true :=
  Option.isNone_iff_eq_none.symm

theorem checkInitialState_eq_ok_iff {given : Value} {number : Float} :
    checkInitialState given = .ok number ↔ given.StandsFor number := by
  rw [checkInitialState, Value.StandsFor]
  split
  · next hreal => simp [hreal]
  · next cause _ hreal =>
      rw [hreal]
      split
      · simp
      · simp
  · next other hreal =>
      rw [hreal, Except.ok.injEq]
      cases hother : NonFinite.ofFloat? other with
      | some what =>
          apply iff_of_false
          · simp
          · rintro ⟨rfl, hfinite⟩
            rw [nonFinite_ofFloat?_eq_none_iff.mpr hfinite] at hother
            cases hother
      | none =>
          rw [Except.ok.injEq]
          constructor
          · rintro rfl
            exact ⟨rfl, nonFinite_ofFloat?_eq_none_iff.mp hother⟩
          · exact And.left

theorem not_escapesAtPoint_of_toReal {given : Value} {number : Float}
    (hreal : given.toReal = .ok number) (escape : ArrayError) :
    ¬ given.EscapesAtPoint escape := by
  intro hescapes
  cases hescapes with
  | tooLarge hlarge =>
      rw [Value.toReal_eq_tooLarge_iff.mpr ⟨_, rfl, hlarge⟩] at hreal
      cases hreal
  | unwritable hother hlong =>
      obtain ⟨cause, herror, _⟩ := Value.exists_toReal_eq_error hother hlong
      rw [herror] at hreal
      cases hreal

theorem refusesInitialState_of_eq_error {given : Value} {cause : InitialStateError}
    (hrefused : checkInitialState given = .error cause) : RefusesInitialState given cause := by
  rw [checkInitialState] at hrefused
  split at hrefused
  · next hreal =>
      obtain rfl := Except.error.inj hrefused
      obtain ⟨number, rfl, hlarge⟩ := Value.toReal_eq_tooLarge_iff.mp hreal
      exact .uncaught (.tooLarge hlarge) rfl rfl
  · next conversion hsmall hreal =>
      have hother : ∀ number, given ≠ .integer number := by
        rintro number rfl
        exact hsmall (Value.eq_tooLarge_of_toReal_integer hreal)
      split at hrefused
      · next hwritten =>
          obtain rfl := Except.error.inj hrefused
          refine .invalid (fun escape hescapes => ?_) rfl
          cases hescapes with
          | tooLarge => exact hother _ rfl
          | unwritable _ hlong => simp [hlong] at hwritten
      · next hlong =>
          obtain rfl := Except.error.inj hrefused
          exact .uncaught (.unwritable hother (Bool.eq_false_iff.mpr hlong)) rfl rfl
  · next number hreal =>
      split at hrefused
      · obtain rfl := Except.error.inj hrefused
        exact .invalid (not_escapesAtPoint_of_toReal hreal) rfl
      · cases hrefused

theorem checkInitialState_of_unwritable {given : Value}
    (hother : ∀ number, given ≠ .integer number) (hlong : given.isWritable = false) :
    checkInitialState given = .error .unwritable := by
  obtain ⟨cause, hreal, hcause⟩ := Value.exists_toReal_eq_error hother hlong
  rw [checkInitialState, hreal]
  simp [hlong]

/-! ### Horizons -/

/-- What a horizon is refused with, as it can be written or not. -/
theorem checkHorizon_eq (given : Value) :
    (∃ length : Nat, given = .integer length ∧ checkHorizon given = .ok length) ∨
      (∀ length : Nat, given ≠ .integer length) ∧
        ∃ cause, checkHorizon given = .error cause ∧
          kind cause = if given.isWritable then .invalidHorizon else .value := by
  have hrefuses (error : HorizonError) (hkind : kind error = .invalidHorizon) :
      ∃ cause, (if given.isWritable then Except.error error else .error .unwritable :
          Except HorizonError Nat) = .error cause ∧
        kind cause = if given.isWritable then .invalidHorizon else .value := by
    split
    · exact ⟨_, rfl, hkind⟩
    · exact ⟨_, rfl, rfl⟩
  cases given with
  | integer length =>
      rcases Int.lt_or_le length 0 with hnegative | hnonneg
      · refine Or.inr ⟨?_, ?_⟩
        · rintro size hsize
          obtain rfl := Value.integer.inj hsize
          exact absurd hnegative (Int.natCast_nonneg size).not_gt
        · simp only [checkHorizon, if_neg hnegative.not_ge]
          exact hrefuses _ rfl
      · obtain ⟨size, rfl⟩ := Int.eq_ofNat_of_zero_le hnonneg
        refine Or.inl ⟨size, rfl, ?_⟩
        simp only [checkHorizon, if_pos hnonneg, Int.toNat_natCast]
  | _ => exact Or.inr ⟨fun _ => nofun, hrefuses (.notAnInteger _) rfl⟩

theorem checkHorizon_of_negative {length : Int} (hnegative : ¬ 0 ≤ length)
    (hlong : (Value.integer length).isWritable = false) :
    checkHorizon (.integer length) = .error .unwritable := by
  simp only [checkHorizon, if_neg hnegative, hlong]
  rfl

theorem checkHorizon_eq_ok_iff {given : Value} {length : Nat} :
    checkHorizon given = .ok length ↔ given = .integer length := by
  obtain ⟨size, rfl, hok⟩ | ⟨hother, cause, herror, -⟩ := checkHorizon_eq given
  · rw [hok, Except.ok.injEq, Value.integer.injEq, Int.natCast_inj]
  · simp [herror, hother]

/-! ### Runs -/

/-- A run that has started ends in the sweep or in the replay, if it fails. -/
theorem GridProblem.run_ensures {α : Type} [Number α] (task : GridProblem α)
    (execution : Execution) (initial : α) (horizon : Nat) :
    Ensures (fun _ => True)
      (fun error => (∃ cause, error = .solve cause) ∨ ∃ cause, error = .replay cause)
      (task.run execution initial horizon) := by
  rw [run]
  apply ((Ensures.of_mapError _ RunError.solve).mono (fun _ => id) fun _ => Or.inl).bind
  intro table _
  rw [replay]
  apply ((Ensures.of_mapError _ RunError.replay).mono (fun _ => id) fun _ => Or.inr).bind
  intro replay _
  apply ((Ensures.of_mapError _ RunError.replay).mono (fun _ => id) fun _ => Or.inr).bind
  intro trajectory _
  trivial

/-- The tracking problem with one worker. -/
def Tracking.solver : Solver where
  task := Tracking.task true
  execution := .standard

namespace Solver

section Checks

variable {solver : Solver} {initial horizon : Value} {number : Float}

theorem run_of_checks {length : Nat} (hinitial : checkInitialState initial = .ok number)
    (hhorizon : checkHorizon horizon = .ok length) :
    solver.run initial horizon = solver.task.run solver.execution number length := by
  rw [run, hinitial, hhorizon]
  rfl

theorem run_of_checkInitialState {cause : InitialStateError}
    (hinitial : checkInitialState initial = .error cause) :
    solver.run initial horizon = .error (.initialState cause) := by
  rw [run, hinitial]
  rfl

theorem run_of_checkHorizon {cause : HorizonError}
    (hinitial : checkInitialState initial = .ok number)
    (hhorizon : checkHorizon horizon = .error cause) :
    solver.run initial horizon = .error (.horizon cause) := by
  rw [run, hinitial, hhorizon]
  rfl

end Checks

/-- A run starts just with a finite initial state and a horizon that is a natural number, and then
with these.  Otherwise it ends with a refusal that no solver has a part in: of the initial state, or
else of the horizon.  A refusal is reported as one, unless the initial state is an integer beyond
the largest double, or what is refused holds an integer that is too long to be written. -/
theorem run_admission (initial horizon : Value) :
    (∀ number (length : Nat), initial.StandsFor number → horizon = .integer length →
      ∀ solver : Solver,
        solver.run initial horizon = solver.task.run solver.execution number length) ∧
    ((∀ number, ¬ initial.StandsFor number) → ∃ cause, RefusesInitialState initial cause ∧
      ∀ solver : Solver, solver.run initial horizon = .error (.initialState cause)) ∧
    (∀ number, initial.StandsFor number → (∀ length : Nat, horizon ≠ .integer length) →
      ∃ cause, kind cause = (if horizon.isWritable then .invalidHorizon else .value) ∧
        ∀ solver : Solver, solver.run initial horizon = .error (.horizon cause)) ∧
    ∀ (solver : Solver) number length error,
      solver.task.run solver.execution number length = .error error →
        (∃ cause, error = .solve cause) ∨ ∃ cause, error = .replay cause := by
  refine ⟨?started, ?initial, ?horizon, fun solver number length error hfails =>
    (solver.task.run_ensures solver.execution number length).admitted_of_error hfails⟩
  case started =>
    rintro number length hstands rfl solver
    exact run_of_checks (checkInitialState_eq_ok_iff.mpr hstands) (checkHorizon_eq_ok_iff.mpr rfl)
  case initial =>
    intro hnone
    cases hcheck : checkInitialState initial with
    | ok number => exact absurd (checkInitialState_eq_ok_iff.mp hcheck) (hnone number)
    | error cause =>
        exact ⟨cause, refusesInitialState_of_eq_error hcheck,
          fun _ => run_of_checkInitialState hcheck⟩
  case horizon =>
    intro number hstands hother
    obtain ⟨length, rfl, -⟩ | ⟨-, cause, hcheck, hkind⟩ := checkHorizon_eq horizon
    · exact absurd rfl (hother length)
    · exact ⟨cause, hkind, fun _ =>
        run_of_checkHorizon (checkInitialState_eq_ok_iff.mpr hstands) hcheck⟩

/-- An integer beyond the largest double is no refused initial state but an overflow; and a list
with an integer too long to be written, like a negative horizon of that length, is a wrong value. -/
theorem exists_uncaught_refusals :
    (∃ cause, Tracking.solver.run (.integer (10 ^ 400)) (.integer 1) =
        .error (.initialState cause) ∧ kind cause = .overflow) ∧
    (∃ cause, Tracking.solver.run (.list [.integer (10 ^ 4300)]) (.integer 1) =
        .error (.initialState cause) ∧ kind cause = .value) ∧
    ∃ cause, Tracking.solver.run (.boolean true) (.integer (-10 ^ 4300)) =
        .error (.horizon cause) ∧ kind cause = .value := by
  have hlarge : integerLimit ≤ (10 ^ 400 : Int).natAbs := by decide +kernel
  have hlong : (Value.list [.integer (10 ^ 4300)]).isWritable = false := by decide +kernel
  have hnegative : ¬ (0 : Int) ≤ -10 ^ 4300 := by decide +kernel
  have hlength : (Value.integer (-10 ^ 4300)).isWritable = false := by decide +kernel
  have hone : (Value.boolean true).StandsFor 1.0 := ⟨rfl, by decide +kernel⟩
  refine ⟨⟨.tooLarge, run_of_checkInitialState ?_, rfl⟩,
    ⟨.unwritable, run_of_checkInitialState ?_, rfl⟩,
    ⟨.unwritable, run_of_checkHorizon (checkInitialState_eq_ok_iff.mpr hone) ?_, rfl⟩⟩
  · rw [checkInitialState, Value.toReal_eq_tooLarge_iff.mpr ⟨_, rfl, hlarge⟩]
  · exact checkInitialState_of_unwritable (fun _ => nofun) hlong
  · exact checkHorizon_of_negative hnegative hlength

end Solver

end BellmanGrid
