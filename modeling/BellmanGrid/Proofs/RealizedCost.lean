import BellmanGrid.Proofs.DoubleSubtraction
import BellmanGrid.Proofs.ExactNumber
import BellmanGrid.Proofs.ReplayOnGrid
import BellmanGrid.Proofs.Tracking

/-!
The cost of a solution, added up in two orders.

The sweep adds the costs along a trajectory from its end, the realized cost adds them from its
start.  On a trajectory of grid points these are the same stage costs and the same terminal cost, so
the two sums differ by rounding at most, and not at all in exact arithmetic.
-/

namespace BellmanGrid

variable {α : Type} [Number α]

namespace Problem

/-- Evaluation along visited states and the controls between them, from a time on: a stage cost for
each control, and the terminal cost of the last state. -/
inductive CostsAlong (problem : Problem α) :
    (time : Nat) → (visited chosen stages : List α) → (terminal : α) → Prop
  | last {time : Nat} {state terminal : α}
      (hterminal : problem.evaluate .terminalCost state none time = .ok terminal) :
      CostsAlong problem time [state] [] [] terminal
  | step {time : Nat} {state control stage : α} {visited chosen stages : List α} {terminal : α}
      (hstage : problem.evaluate .stageCost state (some control) time = .ok stage)
      (hlater : CostsAlong problem (time + 1) visited chosen stages terminal) :
      CostsAlong problem time (state :: visited) (control :: chosen) (stage :: stages) terminal

variable {problem : Problem α} {time : Nat} {visited chosen stages : List α} {terminal : α}

theorem CostsAlong.length_stages
    (halong : problem.CostsAlong time visited chosen stages terminal) :
    stages.length = chosen.length := by
  induction halong with
  | last _ => rfl
  | step _ _ ih => exact congrArg Nat.succ ih

theorem CostsAlong.length_visited
    (halong : problem.CostsAlong time visited chosen stages terminal) :
    visited.length = chosen.length + 1 := by
  induction halong with
  | last _ => rfl
  | step _ _ ih => exact congrArg Nat.succ ih

/-- Costs are added to a total from the left, the terminal cost last. -/
theorem CostsAlong.addCosts (halong : problem.CostsAlong time visited chosen stages terminal)
    (total : α) :
    problem.addCosts total time visited chosen = .ok (stages.foldl (· + ·) total + terminal) := by
  induction halong generalizing total with
  | last hterminal =>
      rw [Problem.addCosts, hterminal]
      rfl
  | step hstage _ ih =>
      rw [Problem.addCosts, hstage]
      exact ih _

theorem CostsAlong.realizedCost (halong : problem.CostsAlong 0 visited chosen stages terminal) :
    problem.realizedCost visited chosen =
      .ok (stages.foldl (· + ·) Number.zero + terminal) := by
  rw [Problem.realizedCost, if_pos halong.length_visited, halong.addCosts]
  rfl

/-- A cost along a trajectory is the sum of its costs from the right. -/
theorem exists_costsAlong {cost : α} (halong : Recursion.costAlong problem.pointResult.finite? time
      visited chosen = some cost) :
    ∃ stages terminal, problem.CostsAlong time visited chosen stages terminal ∧
      cost = stages.foldr (· + ·) terminal := by
  induction chosen generalizing time visited cost with
  | nil =>
      obtain _ | ⟨state, _ | ⟨_, _⟩⟩ := visited
      · cases halong
      · exact ⟨[], cost, .last ((problem.evaluate_eq_ok_iff _ _ _ _ _).mpr halong), rfl⟩
      · cases halong
  | cons control chosen ih =>
      obtain _ | ⟨state, visited⟩ := visited
      · cases halong
      · simp only [Recursion.costAlong, Option.bind_eq_bind, Option.bind_eq_some_iff] at halong
        obtain ⟨stage, hstage, later, hlater, hcost⟩ := halong
        obtain ⟨stages, terminal, hrest, rfl⟩ := ih hlater
        refine ⟨stage :: stages, terminal, .step ?_ hrest, (Option.some.inj hcost).symm⟩
        exact (problem.evaluate_eq_ok_iff _ _ _ _ _).mpr hstage

end Problem

/-- In exact arithmetic a sum from the left is the sum from the right. -/
theorem ExactNumber.value_foldl_add (K : Type) [Field K] [LinearOrder K] [IsStrictOrderedRing K]
    [ExactNumber α K] (stages : List α) (total terminal : α) :
    (value (stages.foldl (· + ·) total + terminal) : K) =
      value total + value (stages.foldr (· + ·) terminal) := by
  induction stages generalizing total with
  | nil => exact value_add total terminal
  | cons stage rest ih =>
      rw [List.foldl_cons, List.foldr_cons, ih, value_add, value_add, add_assoc]

namespace GridProblem

/-- On a trajectory of grid points the stored cost is the sum of the costs along it from the last to
the first, and the realized cost is the sum of the same costs from the first to the last.  In exact
arithmetic they are equal. -/
theorem realizedCost_of_run [LawfulDifference α] {task : GridProblem α}
    (helementwise : task.problem.vectorized = true → task.problem.ActsAs task.problem.pointResult)
    {execution : Execution} {initial : α} {horizon : Nat} {solution : Solution α task}
    (hrun : task.run execution initial horizon = .ok solution)
    (hgrid : ∀ state ∈ solution.trajectory.states, state ∈ task.states.points) :
    ∃ stages terminal, task.problem.CostsAlong 0 solution.trajectory.states
        solution.trajectory.controls stages terminal ∧
      stages.length = horizon ∧
      solution.trajectory.cost = stages.foldr (· + ·) terminal ∧
      solution.realizedCost = .ok (stages.foldl (· + ·) Number.zero + terminal) ∧
      ∀ (K : Type) [Field K] [LinearOrder K] [IsStrictOrderedRing K] [ExactNumber α K],
        solution.realizedCost = .ok solution.trajectory.cost := by
  have hfixed : ∀ state ∈ solution.trajectory.states, task.states.snap state = state :=
    fun state hmem => Grid.snap_self_of_mem (hgrid state hmem)
  have hdynamics : ∀ state control (time : Nat) successor,
      task.problem.evaluate .dynamics state (some control) time = .ok successor →
        task.problem.pointResult.finite? .dynamics state (some control) time = some successor :=
    fun _ _ _ _ hsuccessor => (task.problem.evaluate_eq_ok_iff _ _ _ _ _).mp hsuccessor
  obtain ⟨hcost, _, hcontrols⟩ := costAlong_of_run (Problem.actsAs_pointResult helementwise)
    hdynamics hrun hfixed
  obtain ⟨stages, terminal, halong, hsum⟩ := Problem.exists_costsAlong hcost
  have hrealized : solution.realizedCost =
      .ok (stages.foldl (· + ·) Number.zero + terminal) := halong.realizedCost
  refine ⟨stages, terminal, halong, halong.length_stages.trans hcontrols, hsum, hrealized, ?_⟩
  intro K _ _ _ _
  rw [hrealized, hsum, Except.ok.injEq]
  apply ExactNumber.value_injective (K := K)
  rw [ExactNumber.value_foldl_add, Number.zero, ExactNumber.value_ofInt, Int.cast_zero, zero_add]

/-- From the highest state the tracking problem stays there for two steps, at a cost of three. -/
theorem tracking_realizedCost :
    ∃ solution, GridProblem.run ⟨(Tracking.system Rat).problem true, Tracking.rationalGrid,
        Tracking.rationalGrid⟩ .standard 1 2 = .ok solution ∧
      solution.trajectory = ⟨[1, 1, 1], [0, 0], 3⟩ ∧ solution.realizedCost = .ok 3 := by
  have hvalue : (GridProblem.run ⟨(Tracking.system Rat).problem true, Tracking.rationalGrid,
      Tracking.rationalGrid⟩ .standard 1 2).toOption.map Solution.trajectory =
        some ⟨[1, 1, 1], [0, 0], 3⟩ := by
    decide +kernel
  obtain ⟨solution, hrun, htrajectory⟩ := Option.map_eq_some_iff.mp hvalue
  rw [toOption_eq_some_iff] at hrun
  obtain ⟨_, _, _, _, _, _, hexact⟩ := realizedCost_of_run
    (fun _ => (Tracking.system Rat).problem_actsAs_pointResult true) hrun
    (by rw [htrajectory]; decide +kernel)
  refine ⟨solution, hrun, htrajectory, ?_⟩
  rw [hexact Rat, htrajectory]

end GridProblem

end BellmanGrid
