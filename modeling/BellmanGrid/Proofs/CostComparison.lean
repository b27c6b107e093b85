import BellmanGrid.Proofs.ExactNumber
import BellmanGrid.Proofs.Optimality
import Mathlib.Algebra.BigOperators.Intervals
import Mathlib.Algebra.Order.Interval.Finset.SuccPred

/-!
Tables for different costs.

Two systems that move the points of the grids alike may choose different controls and visit
different states.  The minimum of the one is still at most what the minimiser of the other costs in
it, so a column exceeds the other one by no more than the next column does and the costs of the step
allow.  Through all steps the excess is at most the sum of what is allowed.
-/

namespace BellmanGrid

variable {α : Type} [Number α]

namespace Recursion

variable {value other : Role → (state : α) → (control : Option α) → (time : Int) → Option α}
variable {states controls : Grid α} {horizon : Nat}

/-- Below a horizon two systems move the points of the grids alike. -/
def SameDynamics
    (value other : Role → (state : α) → (control : Option α) → (time : Int) → Option α)
    (states controls : Grid α) (horizon : Nat) : Prop :=
  ∀ state ∈ states.points, ∀ control ∈ controls.points, ∀ time : Nat, time < horizon →
    value .dynamics state (some control) time = other .dynamics state (some control) time

section Exact

variable {K : Type} [Field K] [LinearOrder K] [IsStrictOrderedRing K] [ExactNumber α K]

/-- On the grids the costs of a system exceed those of another one by at most the slack of the
time. -/
structure CostsWithin (slack : Nat → K)
    (value other : Role → (state : α) → (control : Option α) → (time : Int) → Option α)
    (states controls : Grid α) (horizon : Nat) : Prop where
  stage : ∀ state ∈ states.points, ∀ control ∈ controls.points, ∀ time : Nat, time < horizon →
    ∀ cost otherCost, value .stageCost state (some control) time = some cost →
      other .stageCost state (some control) time = some otherCost →
        ExactNumber.value cost ≤ ExactNumber.value otherCost + slack time
  terminal : ∀ state ∈ states.points, ∀ cost otherCost,
    value .terminalCost state none horizon = some cost →
      other .terminalCost state none horizon = some otherCost →
        ExactNumber.value cost ≤ ExactNumber.value otherCost + slack horizon

/-- Both columns are filled, and the first one exceeds the second one nowhere by more than a
bound. -/
def ColumnWithin {count : Nat} (bound : K) (column other : Column α count) : Prop :=
  ∀ row, ∃ cost otherCost, column.get row = some cost ∧ other.get row = some otherCost ∧
    ExactNumber.value cost ≤ ExactNumber.value otherCost + bound

variable {slack : Nat → K} {table otherTable : Table α states.size horizon}

/-- One step: the bound of the next columns grows by the slack of the step. -/
theorem IsSolution.columnWithin_step (hsolution : IsSolution value states controls table)
    (hother : IsSolution other states controls otherTable)
    (hdynamics : SameDynamics value other states controls horizon)
    (hcosts : CostsWithin slack value other states controls horizon) (time : Fin horizon)
    {bound : K}
    (hnext : ColumnWithin bound (table.cost.get time.succ) (otherTable.cost.get time.succ)) :
    ColumnWithin (slack time + bound) (table.cost.get time.castSucc)
      (otherTable.cost.get time.castSucc) := by
  have := ExactNumber.monotoneNumber (α := α) K
  intro row
  have hstate := states.point_mem row
  obtain ⟨_, _, cost, hcost, _, hleast⟩ := hsolution.step time row
  obtain ⟨best, _, otherCost, hotherCost, hbest, _⟩ := hother.step time row
  have hcontrol := controls.point_mem best
  -- The minimum of the first table ranges over the control that the second one keeps.
  obtain ⟨candidate, hcandidate, hatMost⟩ := hleast best
  obtain ⟨successor, stage, later, hsuccessor, hstage, hlater, rfl, _⟩ :=
    candidate?_eq_some_iff.mp hcandidate
  obtain ⟨successor', otherStage, otherLater, hsuccessor', hotherStage, hotherLater, rfl, _⟩ :=
    candidate?_eq_some_iff.mp hbest
  obtain rfl : successor = successor' := by
    rw [hdynamics _ hstate _ hcontrol time time.isLt] at hsuccessor
    exact Option.some.inj (hsuccessor.symm.trans hsuccessor')
  obtain ⟨found, otherFound, hfound, hotherFound, hle⟩ := hnext (states.nearestIndex successor)
  obtain rfl : later = found := Option.some.inj (hlater.symm.trans hfound)
  obtain rfl : otherLater = otherFound := Option.some.inj (hotherLater.symm.trans hotherFound)
  refine ⟨cost, otherStage + otherLater, hcost, hotherCost, ?_⟩
  have hstageLe := hcosts.stage _ hstate _ hcontrol time time.isLt stage otherStage hstage
    hotherStage
  rw [ExactNumber.atMost_iff (K := K), ExactNumber.value_add] at hatMost
  rw [ExactNumber.value_add]
  calc (ExactNumber.value cost : K)
      ≤ ExactNumber.value stage + ExactNumber.value later := hatMost
    _ ≤ (ExactNumber.value otherStage + slack time) + (ExactNumber.value otherLater + bound) :=
        add_le_add hstageLe hle
    _ = ExactNumber.value otherStage + ExactNumber.value otherLater + (slack time + bound) :=
        add_add_add_comm _ _ _ _

/-- At every time the first table exceeds the second one by at most the slack from there on. -/
theorem IsSolution.columnWithin (hsolution : IsSolution value states controls table)
    (hother : IsSolution other states controls otherTable)
    (hdynamics : SameDynamics value other states controls horizon)
    (hcosts : CostsWithin slack value other states controls horizon) (time : Fin (horizon + 1)) :
    ColumnWithin (∑ step ∈ Finset.Icc time.val horizon, slack step) (table.cost.get time)
      (otherTable.cost.get time) := by
  induction time using Fin.reverseInduction with
  | last =>
      intro row
      obtain ⟨cost, hcost, hterminal⟩ := hsolution.last row
      obtain ⟨otherCost, hotherCost, hotherTerminal⟩ := hother.last row
      refine ⟨cost, otherCost, hcost, hotherCost, ?_⟩
      rw [Fin.val_last, Finset.Icc_self, Finset.sum_singleton]
      exact hcosts.terminal _ (states.point_mem row) cost otherCost hterminal hotherTerminal
  | cast time ih =>
      rw [Fin.val_castSucc, ← Finset.add_sum_Ioc_eq_sum_Icc time.isLt.le,
        ← Finset.Icc_add_one_left_eq_Ioc]
      exact hsolution.columnWithin_step hother hdynamics hcosts time ih

end Exact

end Recursion

/-- The tracking system with controls that cost nothing. -/
def Tracking.idleSystem : LinearQuadratic Rat :=
  { Tracking.system Rat with r := 0 }

namespace GridProblem

open Recursion

/-- In exact arithmetic, stage and terminal costs that exceed others by at most the slack of each
time give a table that exceeds the other one by at most the sum of the slack from a time on.  Costs
that differ by at most the slack, either way, give tables that differ by at most that sum. -/
theorem columnWithin_of_solve {K : Type} [Field K] [LinearOrder K] [IsStrictOrderedRing K]
    [ExactNumber α K] {problem other : Problem α} {result otherResult : PointResult α}
    (hacts : problem.ActsAs result) (hotherActs : other.ActsAs otherResult)
    {states controls : Grid α} {horizon : Nat}
    (hdynamics : SameDynamics result.finite? otherResult.finite? states controls horizon)
    {execution otherExecution : Execution} {table otherTable : Table α states.size horizon}
    (hsolve : solve ⟨problem, states, controls⟩ execution horizon = .ok table)
    (hotherSolve : solve ⟨other, states, controls⟩ otherExecution horizon = .ok otherTable)
    (slack : Nat → K)
    (hcosts : CostsWithin slack result.finite? otherResult.finite? states controls horizon) :
    (∀ time : Fin (horizon + 1), ColumnWithin (∑ step ∈ Finset.Icc time.val horizon, slack step)
      (table.cost.get time) (otherTable.cost.get time)) ∧
    (CostsWithin slack otherResult.finite? result.finite? states controls horizon →
      ∀ (time : Fin (horizon + 1)) (state : Fin states.size), ∃ cost otherCost,
        (table.cost.get time).get state = some cost ∧
        (otherTable.cost.get time).get state = some otherCost ∧
        |ExactNumber.value cost - ExactNumber.value otherCost| ≤
          ∑ step ∈ Finset.Icc time.val horizon, slack step) := by
  obtain ⟨hsolution, _⟩ := isSolution_of_solve hacts hsolve
  obtain ⟨hother, _⟩ := isSolution_of_solve hotherActs hotherSolve
  have hwithin := hsolution.columnWithin hother hdynamics hcosts
  refine ⟨hwithin, ?_⟩
  intro hotherCosts time state
  have hback : SameDynamics otherResult.finite? result.finite? states controls horizon :=
    fun state hstate control hcontrol time htime =>
      (hdynamics state hstate control hcontrol time htime).symm
  obtain ⟨cost, otherCost, hcost, hotherCost, hle⟩ := hwithin time state
  obtain ⟨otherFound, found, hotherFound, hfound, hge⟩ :=
    hother.columnWithin hsolution hback hotherCosts time state
  obtain rfl : cost = found := Option.some.inj (hcost.symm.trans hfound)
  obtain rfl : otherCost = otherFound := Option.some.inj (hotherCost.symm.trans hotherFound)
  refine ⟨cost, otherCost, hcost, hotherCost, abs_sub_le_iff.mpr ⟨?_, ?_⟩⟩
  · exact sub_le_iff_le_add'.mpr hle
  · exact sub_le_iff_le_add'.mpr hge

/-- Free controls save at most one a step on the three points, and over two steps they save at most
two at the lowest state. -/
theorem tracking_columnWithin :
    ∃ table cheaper,
      solve ⟨(Tracking.system Rat).problem true, Tracking.rationalGrid, Tracking.rationalGrid⟩
        .standard 2 = .ok table ∧
      solve ⟨Tracking.idleSystem.problem false, Tracking.rationalGrid, Tracking.rationalGrid⟩
        .standard 2 = .ok cheaper ∧
      (table.cost.get 0).get ⟨0, by decide⟩ = some 4 ∧
      ∃ cost, (cheaper.cost.get 0).get ⟨0, by decide⟩ = some cost ∧ |4 - cost| ≤ 2 := by
  have hunit : ∀ control ∈ Tracking.rationalGrid.points, 0 ≤ control * control ∧
      control * control ≤ 1 := by
    decide +kernel
  have hstage : ∀ state control : Rat, (Tracking.system Rat).stageCost state control =
      Tracking.idleSystem.stageCost state control + control * control := by
    intro state control
    show 1 * state * state + 1 * control * control =
      1 * state * state + 0 * control * control + control * control
    ring
  have hcosts : CostsWithin (fun time => if time < 2 then (1 : Rat) else 0)
      (Tracking.system Rat).pointResult.finite? Tracking.idleSystem.pointResult.finite?
      Tracking.rationalGrid Tracking.rationalGrid 2 := by
    constructor
    · intro state _ control hcontrol time htime cost otherCost hcost hotherCost
      obtain rfl : (Tracking.system Rat).stageCost state control = cost := Option.some.inj hcost
      obtain rfl : Tracking.idleSystem.stageCost state control = otherCost :=
        Option.some.inj hotherCost
      rw [hstage, if_pos htime]
      exact add_le_add_right (hunit control hcontrol).2 _
    · rintro state _ _ _ ⟨⟩ ⟨⟩
      exact (add_zero _).ge
  have hback : CostsWithin (fun time => if time < 2 then (1 : Rat) else 0)
      Tracking.idleSystem.pointResult.finite? (Tracking.system Rat).pointResult.finite?
      Tracking.rationalGrid Tracking.rationalGrid 2 := by
    constructor
    · intro state _ control hcontrol time htime cost otherCost hcost hotherCost
      obtain rfl : Tracking.idleSystem.stageCost state control = cost := Option.some.inj hcost
      obtain rfl : (Tracking.system Rat).stageCost state control = otherCost :=
        Option.some.inj hotherCost
      rw [hstage, if_pos htime, ExactNumber.value_add, add_assoc]
      exact le_add_of_nonneg_right (add_nonneg (hunit control hcontrol).1 zero_le_one)
    · rintro state _ _ _ ⟨⟩ ⟨⟩
      exact (add_zero _).ge
  have hfirst : (solve ⟨(Tracking.system Rat).problem true, Tracking.rationalGrid,
      Tracking.rationalGrid⟩ .standard 2).toOption.map (fun table =>
        (table.cost.get 0).get ⟨0, by decide⟩) = some (some 4) := by
    decide +kernel
  have hsecond : (solve ⟨Tracking.idleSystem.problem false, Tracking.rationalGrid,
      Tracking.rationalGrid⟩ .standard 2).toOption.isSome = true := by
    decide +kernel
  obtain ⟨table, htable, hfour⟩ := Option.map_eq_some_iff.mp hfirst
  obtain ⟨cheaper, hcheaper⟩ := Option.isSome_iff_exists.mp hsecond
  rw [toOption_eq_some_iff] at htable hcheaper
  obtain ⟨_, hdiffer⟩ := columnWithin_of_solve ((Tracking.system Rat).problem_actsAs true)
    (Tracking.idleSystem.problem_actsAs false) (fun _ _ _ _ _ _ => rfl) htable hcheaper _ hcosts
  have hsum : (∑ step ∈ Finset.Icc 0 2, if step < 2 then (1 : Rat) else 0) = 2 := by
    decide +kernel
  obtain ⟨cost, otherCost, hcost, hotherCost, hle⟩ := hdiffer hback 0 ⟨0, by decide⟩
  obtain rfl : cost = 4 := Option.some.inj (hcost.symm.trans hfour)
  exact ⟨table, cheaper, htable, hcheaper, hfour, otherCost, hotherCost, hle.trans_eq hsum⟩

end GridProblem

end BellmanGrid
