import BellmanGrid.Proofs.ClosedFormOptimality
import BellmanGrid.Proofs.NearestPoint
import BellmanGrid.Proofs.ReplayOnGrid
import Mathlib.Algebra.BigOperators.Fin
import Mathlib.Algebra.Order.BigOperators.Ring.Finset

/-!
The table of the tracking problem against its closed form.

In exact arithmetic a run that stays on the grid is a control sequence with its own costs, and the
tabulated cost is the cost of that sequence.  What it exceeds the closed form by is one completed
square for each time, so the grid is never better than the closed form and as good only when every
chosen control is the one of the law.
-/

namespace BellmanGrid

variable {α : Type} [Number α]

namespace LinearQuadratic

variable (system : LinearQuadratic α)

/-- The states that a control sequence visits. -/
def rolloutStates : (sequence : List α) → (state : α) → List α
  | [], state => [state]
  | control :: rest, state => state :: rolloutStates rest (system.next state control)

open ExactNumber

variable {K : Type} [Field K] [LinearOrder K] [IsStrictOrderedRing K]

section Rollout

variable [ExactNumber α K] {system}

/-- In an exact arithmetic every callback has a finite number at every point. -/
theorem finite?_dynamics (K : Type) [Field K] [LinearOrder K] [IsStrictOrderedRing K]
    [ExactNumber α K] (state control : α) (time : Int) :
    system.pointResult.finite? .dynamics state (some control) time =
      some (system.next state control) := by
  simp [PointResult.finite?, pointResult, Problem.functionResult, NonFinite.judge,
    nonFinite?_eq_none (K := K), Except.toOption]

theorem finite?_stageCost (K : Type) [Field K] [LinearOrder K] [IsStrictOrderedRing K]
    [ExactNumber α K] (state control : α) (time : Int) :
    system.pointResult.finite? .stageCost state (some control) time =
      some (system.stageCost state control) := by
  simp [PointResult.finite?, pointResult, Problem.functionResult, NonFinite.judge,
    nonFinite?_eq_none (K := K), Except.toOption]

theorem finite?_terminalCost (K : Type) [Field K] [LinearOrder K] [IsStrictOrderedRing K]
    [ExactNumber α K] (state : α) (time : Int) :
    system.pointResult.finite? .terminalCost state none time =
      some (system.terminalCost state) := by
  simp [PointResult.finite?, pointResult, Problem.functionResult, NonFinite.judge,
    nonFinite?_eq_none (K := K), Except.toOption]

theorem evaluate_dynamics (K : Type) [Field K] [LinearOrder K] [IsStrictOrderedRing K]
    [ExactNumber α K] (vectorized : Bool) (state control : α) (time : Int) :
    (system.problem vectorized).evaluate .dynamics state (some control) time =
      .ok (system.next state control) := by
  simp [Problem.evaluate, Problem.callAt, problem, Problem.ofFunctions, Problem.acceptNumber,
    nonFinite?_eq_none (K := K)]

/-- A replay is the rollout of the controls that it chooses, and its costs are those of the
rollout. -/
theorem follow_eq_rollout (K : Type) [Field K] [LinearOrder K] [IsStrictOrderedRing K]
    [ExactNumber α K] (vectorized : Bool) {states : Grid α}
    (columns : List (Vector (Option α) states.size)) {time : Nat} {state : α}
    {visited chosen : List α}
    (hfollow : Replay.follow (system.problem vectorized) states columns time state =
      .ok (visited, chosen)) :
    visited = system.rolloutStates chosen state ∧
      Recursion.costAlong system.pointResult.finite? time visited chosen =
        some (system.rolloutCost chosen state) := by
  induction columns generalizing time state visited chosen with
  | nil =>
      rw [Replay.follow, Except.ok.injEq, Prod.mk.injEq] at hfollow
      obtain ⟨rfl, rfl⟩ := hfollow
      exact ⟨rfl, finite?_terminalCost K state time⟩
  | cons column rest ih =>
      obtain ⟨control, successor, later, controlsLater, _, hsuccessor, hrest, rfl, rfl⟩ :=
        Recursion.follow_cons_eq_ok hfollow
      rw [evaluate_dynamics K, Except.ok.injEq] at hsuccessor
      subst hsuccessor
      obtain ⟨hvisited, halong⟩ := ih hrest
      refine ⟨by rw [rolloutStates, hvisited], ?_⟩
      simp [Recursion.costAlong, finite?_stageCost K, halong, rolloutCost]

theorem length_rolloutStates (sequence : List α) (state : α) :
    (system.rolloutStates sequence state).length = sequence.length + 1 := by
  induction sequence generalizing state with
  | nil => rfl
  | cons control rest ih => exact congrArg Nat.succ (ih _)

/-! ### The excess as a sum -/

theorem IsClosedForm.length_laws {closed : ClosedForm α} {horizon : Nat}
    (hclosed : system.IsClosedForm closed horizon) : closed.laws.length = horizon := by
  rw [hclosed.laws_eq, List.length_map, List.length_tail, hclosed.length_eq, Nat.add_sub_cancel]

theorem IsClosedForm.length_divisors {closed : ClosedForm α} {horizon : Nat}
    (hclosed : system.IsClosedForm closed horizon) : (system.divisors closed).length = horizon := by
  rw [divisors, List.length_map, List.length_tail, hclosed.length_eq, Nat.add_sub_cancel]

/-- The distance of a control from the law, squared and multiplied by the divisor. -/
def penalty (K : Type) [Field K] [LinearOrder K] [IsStrictOrderedRing K] [ExactNumber α K]
    (divisor : α) (law : AffineLaw α) (state control : α) : K :=
  value divisor * (value control + value law.gain * value state + value law.offset) ^ 2

theorem penalty_eq (divisor : α) (law : AffineLaw α) (state control : α) :
    penalty K divisor law state control =
      value divisor * (value control - value (law.at state)) ^ 2 := by
  simp only [penalty, AffineLaw.at, value_sub, value_mul, value_neg]
  ring

/-- The excess of a control sequence, summed over the times and the states that it visits. -/
theorem excess_eq_sum {closed : ClosedForm α} {horizon : Nat}
    (hclosed : system.IsClosedForm closed horizon) (sequence : List α) {time : Nat}
    (hlength : time + sequence.length = horizon) (state : α) {visited : List α}
    (hvisited : visited = system.rolloutStates sequence state)
    (hstates : visited.length = sequence.length + 1) (hlaws : closed.laws.length = horizon)
    (hdivisors : (system.divisors closed).length = horizon) :
    system.excess K closed time sequence state =
      .ok (∑ step : Fin sequence.length, penalty K (system.divisors closed)[time + step]
        closed.laws[time + step] visited[step] sequence[step]) := by
  induction sequence generalizing time state visited with
  | nil => rfl
  | cons control rest ih =>
      subst hvisited
      rw [List.length_cons] at hlength
      obtain ⟨next, hnext⟩ := hclosed.exists_cost (by omega : time + 1 ≤ horizon)
      obtain ⟨_, hdivisor⟩ : ∃ htime : time < (system.divisors closed).length,
          (system.divisors closed)[time] = system.divisor next := IsClosedForm.divisor_eq hnext
      obtain ⟨_, hlaw⟩ := List.getElem?_eq_some_iff.mp (hclosed.law_eq hnext)
      have hlater := ih (by omega : time + 1 + rest.length = horizon)
        (system.next state control) rfl (length_rolloutStates rest _)
      rw [excess_cons hclosed hnext control state rest hlater, Except.ok.injEq]
      simp only [List.length_cons, Fin.sum_univ_succ]
      congr 1
      · simp [penalty_eq, hdivisor, hlaw, rolloutStates]
      · apply Finset.sum_congr rfl
        intro step _
        have hplace : time + 1 + step.val = time + (step.val + 1) := by omega
        simp [hplace, rolloutStates]

/-- With positive divisors the excess vanishes just when every control is the one of the law. -/
theorem sum_penalty_eq_zero_iff {closed : ClosedForm α} {horizon : Nat}
    (hpositive : ∀ divisor ∈ system.divisors closed, (0 : K) < value divisor)
    (hlaws : closed.laws.length = horizon) (hdivisors : (system.divisors closed).length = horizon)
    (state control : Fin horizon → α) :
    ∑ step : Fin horizon, penalty K (system.divisors closed)[step] closed.laws[step] (state step)
        (control step) = 0 ↔
      ∀ step : Fin horizon, closed.control (state step) step.val = .ok (control step) := by
  have hdivisor : ∀ step : Fin horizon, (0 : K) < value (system.divisors closed)[step] :=
    fun step => hpositive _ (List.getElem_mem _)
  rw [Finset.sum_eq_zero_iff_of_nonneg]
  · simp only [Finset.mem_univ, true_implies]
    apply forall_congr'
    intro step
    have hstep : step.val < closed.laws.length := hlaws ▸ step.isLt
    have hcontrol : closed.control (state step) step.val =
        .ok (closed.laws[step].at (state step)) := by
      rw [ClosedForm.control, position_of_lt 0 hstep]
      rfl
    rw [hcontrol, penalty_eq, mul_eq_zero, or_iff_right (hdivisor step).ne', sq_eq_zero_iff,
      sub_eq_zero, (value_injective (K := K)).eq_iff, Except.ok.injEq, eq_comm]
  · intro step _
    exact mul_nonneg (hdivisor step).le (sq_nonneg _)

end Rollout

/-! ### Runs on the grid -/

/-- A run that stays on the grid is the rollout of its controls, at their cost. -/
theorem run_eq_rollout (K : Type) [Field K] [LinearOrder K] [IsStrictOrderedRing K]
    [ExactNumber α K] {system : LinearQuadratic α} (vectorized : Bool) {states controls : Grid α}
    {execution : Execution} {initial : α} {horizon : Nat}
    {solution : Solution α ⟨system.problem vectorized, states, controls⟩}
    (hrun : GridProblem.run ⟨system.problem vectorized, states, controls⟩ execution initial
      horizon = .ok solution)
    (hfixed : ∀ state ∈ solution.trajectory.states, states.snap state = state) :
    solution.trajectory.states = system.rolloutStates solution.trajectory.controls initial ∧
      solution.trajectory.cost = system.rolloutCost solution.trajectory.controls initial ∧
      solution.trajectory.states.length = horizon + 1 ∧
      solution.trajectory.controls.length = horizon := by
  have hdynamics : ∀ state control (time : Nat) successor,
      (system.problem vectorized).evaluate .dynamics state (some control) time = .ok successor →
        system.pointResult.finite? .dynamics state (some control) time = some successor := by
    intro state control time successor hsuccessor
    rw [evaluate_dynamics K, Except.ok.injEq] at hsuccessor
    rw [finite?_dynamics K, hsuccessor]
  obtain ⟨halong, hstates, hcontrols⟩ :=
    GridProblem.costAlong_of_run (system.problem_actsAs vectorized) hdynamics hrun hfixed
  obtain ⟨table, _, hfollow, _⟩ := GridProblem.run_eq_ok hrun
  obtain ⟨hvisited, hrollout⟩ := follow_eq_rollout K vectorized _ hfollow
  exact ⟨hvisited, Option.some.inj (halong.symm.trans hrollout), hstates, hcontrols⟩

/-- A run of the tracking problem that visits grid points only costs the closed-form cost and, for
each time, the divisor multiplied by the squared distance between the chosen control and the law. So
the grid costs at least as much as the closed form, and the same just when every chosen control is
the one of the closed form. -/
theorem run_cost_eq_closedForm [ExactDistance α K] (vectorized : Bool) (states controls : Grid α)
    (execution : Execution) (initial : α) {horizon : Nat}
    {solution : Solution α ⟨system.problem vectorized, states, controls⟩}
    (hrun : GridProblem.run ⟨system.problem vectorized, states, controls⟩ execution initial
      horizon = .ok solution)
    (hgrid : ∀ state ∈ solution.trajectory.states, state ∈ states.points)
    {closed : ClosedForm α} (hsolve : system.solve horizon = .ok closed)
    (hpositive : ∀ divisor ∈ system.divisors closed, (0 : K) < value divisor) :
    ∃ (_ : solution.trajectory.states.length = horizon + 1)
      (_ : solution.trajectory.controls.length = horizon) (_ : closed.laws.length = horizon)
      (_ : (system.divisors closed).length = horizon),
      ∃ cost, closed.costToGo initial 0 = .ok cost ∧
        (value solution.trajectory.cost : K) - value cost =
          ∑ time : Fin horizon, value (system.divisors closed)[time] *
            (value solution.trajectory.controls[time] +
              value closed.laws[time].gain * value solution.trajectory.states[time] +
              value closed.laws[time].offset) ^ 2 ∧
        (value cost : K) ≤ value solution.trajectory.cost ∧
        (solution.trajectory.cost = cost ↔ ∀ time : Fin horizon,
          closed.control solution.trajectory.states[time] time.val =
            .ok solution.trajectory.controls[time]) := by
  obtain ⟨_, _, hfrom⟩ := solve_eq_ok hsolve
  rw [Int.toNat_natCast] at hfrom
  have hclosed : system.IsClosedForm closed horizon := hfrom ▸ isClosedForm_solveFrom system horizon
  have hfixed : ∀ state ∈ solution.trajectory.states, states.snap state = state :=
    fun state hmem => Grid.snap_of_mem K (hgrid state hmem)
  obtain ⟨hvisited, hcost, hstates, hcontrols⟩ := run_eq_rollout K vectorized hrun hfixed
  have hlaws := hclosed.length_laws
  have hdivisors := hclosed.length_divisors
  subst hcontrols
  have hlength : 0 + solution.trajectory.controls.length = solution.trajectory.controls.length :=
    Nat.zero_add _
  obtain ⟨cost, excess, hoptimal, hexcess, hequal, hnonneg, _⟩ :=
    rolloutCost_eq (K := K) hclosed hpositive solution.trajectory.controls hlength initial
  have hsum := excess_eq_sum (K := K) hclosed solution.trajectory.controls hlength initial hvisited
    hstates hlaws hdivisors
  simp only [Nat.zero_add] at hsum
  have hgap : (value solution.trajectory.cost : K) - value cost = excess := by
    rw [hcost, hequal, add_sub_cancel_left]
  rw [hexcess, Except.ok.injEq] at hsum
  refine ⟨hstates, rfl, hlaws, hdivisors, cost, hoptimal, hgap.trans hsum,
    sub_nonneg.mp (hgap ▸ hnonneg), ?_⟩
  rw [← (value_injective (K := K)).eq_iff, ← sub_eq_zero, hgap, hsum]
  exact sum_penalty_eq_zero_iff hpositive hlaws hdivisors _ _

/-- From the highest state the tracking problem costs three on its grid over two steps, which is
more than the closed form needs with controls between the grid points. -/
theorem tracking_run_cost_gt_closedForm :
    ∃ solution closed cost,
      GridProblem.run ⟨(Tracking.system Rat).problem true, Tracking.rationalGrid,
        Tracking.rationalGrid⟩ .standard 1 2 = .ok solution ∧
      solution.trajectory = ⟨[1, 1, 1], [0, 0], 3⟩ ∧
      (Tracking.system Rat).solve 2 = .ok closed ∧ closed.costToGo 1 0 = .ok cost ∧ cost < 3 := by
  have hvalue : (GridProblem.run ⟨(Tracking.system Rat).problem true, Tracking.rationalGrid,
      Tracking.rationalGrid⟩ .standard 1 2).toOption.map Solution.trajectory =
        some ⟨[1, 1, 1], [0, 0], 3⟩ := by
    decide +kernel
  obtain ⟨solution, hrun, htrajectory⟩ := Option.map_eq_some_iff.mp hvalue
  rw [toOption_eq_some_iff] at hrun
  have hsolve : (Tracking.system Rat).solve 2 =
      .ok ((Tracking.system Rat).solveFrom (Tracking.system Rat).terminalQuadratic 2) := by
    rfl
  have hweight : (0 : Rat) ≤ value (Tracking.system Rat).q := zero_le_one
  obtain ⟨_, _, _, _, cost, hoptimal, _, hle, hequal⟩ :=
    (Tracking.system Rat).run_cost_eq_closedForm (K := Rat) true Tracking.rationalGrid
      Tracking.rationalGrid .standard 1 hrun (by rw [htrajectory]; decide +kernel) hsolve
      (divisors_pos hsolve hweight)
  simp only [htrajectory] at hle hequal
  refine ⟨solution, _, cost, hrun, htrajectory, hsolve, hoptimal, lt_of_le_of_ne hle ?_⟩
  intro hthree
  have hfirst : ((Tracking.system Rat).solveFrom
      (Tracking.system Rat).terminalQuadratic 2).control 1 0 = .ok 0 :=
    hequal.mp hthree.symm ⟨0, Nat.two_pos⟩
  exact absurd hfirst (by decide +kernel)

end LinearQuadratic

end BellmanGrid
