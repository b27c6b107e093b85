import BellmanGrid.Proofs.OrderLaws
import BellmanGrid.Proofs.SweepAgreement
import BellmanGrid.Proofs.Tracking
import Mathlib.Algebra.Order.Ring.Nat

/-!
Evaluation point by point and evaluation in blocks give the same tables.
-/

namespace BellmanGrid

variable {α : Type} [Number α]

/-- The finite number in a reply is finite as a quantity. -/
theorem Reply.finite_of_result? [LawfulConversion α] {reply : Reply α} {number : α}
    (hresult : reply.result?.bind Except.toOption = some number) :
    Number.isFinite number = true := by
  cases reply with
  | raised exception => cases hresult
  | number given =>
      cases hgiven : Number.nonFinite? given with
      | none =>
          simp only [Reply.result?, NonFinite.judge, hgiven, Option.bind_some, Except.toOption, id,
            Option.some.injEq] at hresult
          rw [← hresult, Number.isFinite, hgiven]
          rfl
      | some what => simp [Reply.result?, NonFinite.judge, hgiven, Except.toOption] at hresult
  | other value =>
      cases hvalue : value.toReal with
      | error cause => simp [Reply.result?, hvalue, Except.toOption] at hresult
      | ok given =>
          cases hgiven : NonFinite.ofFloat? given with
          | none =>
              simp only [Reply.result?, hvalue, Except.toOption, Option.map_some, NonFinite.judge,
                hgiven, Option.bind_some, Option.some.injEq] at hresult
              rw [← hresult]
              exact LawfulConversion.finite_ofFloat given hgiven
          | some what =>
              simp [Reply.result?, hvalue, NonFinite.judge, hgiven, Except.toOption] at hresult

namespace GridProblem

variable {states controls : Grid α} {pointwise blockwise : Problem α}

/-- When a granted solve of a problem with finite terminal costs fails, a callback stopped it at the
first gap of the recursion. -/
theorem solve_of_granted (task : GridProblem α) {result : PointResult α} {horizon : Nat}
    {size : Nat × Nat} (hacts : task.problem.ActsAs result)
    (hanswers : result.AnswersOn task.states task.controls horizon)
    (hfinite : ∀ state cost, result.finite? .terminalCost state none horizon = some cost →
      Number.isFinite cost = true)
    (hsize : Table.checkSize task.states.size horizon = .ok size) (execution : Execution) :
    match Recursion.solve result.finite? task.states task.controls horizon with
    | .ok table => task.solve execution horizon = .ok table
    | .error time => ∃ failure : CallbackFailure α,
        task.solve execution horizon = .error (.evaluation (.callback failure)) ∧
          failure.time = time := by
  have hfollows := solveScheduled_follows hacts execution.chunkSize_pos
    Schedule.sequential_reorders hsize
  cases hsolve : Recursion.solve result.finite? task.states task.controls horizon with
  | ok table =>
      rw [hsolve] at hfollows
      have hcomplete := (Recursion.isSolution_of_solve hsolve).isComplete hfinite
      simp only [hcomplete, if_true] at hfollows
      exact hfollows
  | error time =>
      rw [hsolve] at hfollows
      obtain ⟨_, hrun, _, rfl, hadmits⟩ := hfollows
      obtain ⟨failure, rfl, htime⟩ :=
        hadmits (isWritableTime_of_granted hsize (Nat.le_refl horizon)) hanswers
      exact ⟨failure, hrun, htime⟩

/-- A problem evaluated in blocks, whose blocks hold what another problem gives at every point, is
solved like that one: with the same table, or stopped by a callback at the same time, whatever the
block sizes, as long as there is a number wherever the solve evaluates.  Only a table of a size that
is not granted is refused, and then to every problem. -/
theorem solve_modes_agree [LawfulConversion α] (hpointwise : pointwise.vectorized = false)
    (hacts : blockwise.ActsAs pointwise.pointResult) {horizon : Nat}
    (hanswers : pointwise.pointResult.AnswersOn states controls horizon)
    (first second : Execution) :
    (∀ cause, Table.checkSize states.size horizon = .error cause →
      ∀ (problem : Problem α) (execution : Execution),
        solve ⟨problem, states, controls⟩ execution horizon = .error (.table cause)) ∧
    ∀ size, Table.checkSize states.size horizon = .ok size →
      match solve ⟨blockwise, states, controls⟩ first horizon,
        solve ⟨pointwise, states, controls⟩ second horizon with
      | .ok table, .ok other => table = other
      | .error (.evaluation (.callback failure)), .error (.evaluation (.callback other)) =>
          failure.time = other.time
      | _, _ => False := by
  refine ⟨fun cause hrefused _ _ => solveScheduled_of_refused hrefused, fun size hsize => ?_⟩
  have hscalar : pointwise.ActsAs pointwise.pointResult := Problem.actsAs_of_scalar hpointwise
  have hfinite : ∀ state cost, pointwise.pointResult.finite? .terminalCost state none horizon =
      some cost → Number.isFinite cost = true :=
    fun _ _ hcost => Reply.finite_of_result? hcost
  have hblocks := solve_of_granted ⟨blockwise, states, controls⟩ hacts hanswers hfinite hsize first
  have hpoints := solve_of_granted ⟨pointwise, states, controls⟩ hscalar hanswers hfinite hsize
    second
  simp only at hblocks hpoints
  cases hsolve : Recursion.solve pointwise.pointResult.finite? states controls horizon with
  | ok table =>
      rw [hsolve] at hblocks hpoints
      simp only at hblocks hpoints
      rw [hblocks, hpoints]
  | error time =>
      rw [hsolve] at hblocks hpoints
      obtain ⟨blockFailure, hblock, hblockTime⟩ := hblocks
      obtain ⟨pointFailure, hpoint, hpointTime⟩ := hpoints
      rw [hblock, hpoint]
      exact hblockTime.trans hpointTime.symm

/-- The tracking problem is solved in both modes, in blocks of two states and in one block. -/
theorem exists_solve_in_both_modes :
    ∃ table, (Tracking.task true).solve ⟨1, 2, by decide, by decide⟩ 2 = .ok table ∧
      (Tracking.task false).solve .standard 2 = .ok table := by
  have hresult := (Tracking.system Float).pointResult_problem false
  have hanswers := (Tracking.system Float).pointResult_alwaysAnswers
  obtain ⟨-, hgranted⟩ := @solve_modes_agree Float _ Tracking.grid Tracking.grid
    ((Tracking.system Float).problem false) ((Tracking.system Float).problem true) _ rfl
    (hresult ▸ (Tracking.system Float).problem_actsAs true) 2
    (hresult ▸ hanswers.answersOn _ _ _) ⟨1, 2, by decide, by decide⟩ .standard
  have hagree := hgranted (3, 2) rfl
  have hsucceeds : ((Tracking.task true).solve ⟨1, 2, by decide, by decide⟩ 2).isOk = true := by
    decide +kernel
  simp only [Tracking.task] at hsucceeds ⊢
  split at hagree
  · next table other hblock hpoint =>
      subst hagree
      exact ⟨table, hblock, hpoint⟩
  · next hblock _ =>
      rw [hblock] at hsucceeds
      cases hsucceeds
  · exact absurd hagree id

/-- Both modes are refused a table that is too big, and no callback is involved. -/
theorem exists_refused_without_callback :
    ((Tracking.system Float).problem true).ActsAs
        ((Tracking.system Float).problem false).pointResult ∧
      ((Tracking.system Float).problem false).pointResult.AlwaysAnswers ∧
      ∀ vectorized, ∃ error, (Tracking.task vectorized).solve .standard (2 ^ 60) = .error error ∧
        ∀ failure, error ≠ .evaluation (.callback failure) := by
  have hresult := (Tracking.system Float).pointResult_problem false
  rw [hresult]
  refine ⟨(Tracking.system Float).problem_actsAs true,
    (Tracking.system Float).pointResult_alwaysAnswers, ?_⟩
  intro vectorized
  have hsize : Table.checkSize Tracking.grid.size (2 ^ 60 : Nat) = .error (.storage .tooBig) := by
    rfl
  refine ⟨_, solveScheduled_of_refused hsize, ?_⟩
  intro failure hequal
  cases hequal

end GridProblem

end BellmanGrid
