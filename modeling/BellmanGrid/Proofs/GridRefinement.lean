import BellmanGrid.Proofs.ExactNumber
import BellmanGrid.Proofs.Optimality

/-!
Tables on finer grids.

More points of both grids give every minimum more controls to range over.  As long as the successors
of the coarse grids are moved to the same points by the finer ones, the smaller costs-to-go are
carried from each time to the one before it, so no cost of a common point rises.
-/

namespace BellmanGrid

variable {α : Type} [Number α]

/-- Grids with the same points have the same nearest points. -/
theorem Grid.snap_eq_of_points_eq {first second : Grid α} (hpoints : first.points = second.points)
    (quantity : α) : first.snap quantity = second.snap quantity := by
  cases first
  cases second
  cases hpoints
  rfl

/-- Below a horizon two grids of states move every successor of points of the first one, under
points of a grid of controls, to the same place. -/
def Problem.SnapsAlike (problem : Problem α) (states controls finerStates : Grid α)
    (horizon : Nat) : Prop :=
  ∀ state ∈ states.points, ∀ control ∈ controls.points, ∀ time < horizon, ∀ successor,
    problem.evaluate .dynamics state (some control) time = .ok successor →
      finerStates.snap successor = states.snap successor

namespace Recursion

variable {value : Role → (state : α) → (control : Option α) → (time : Int) → Option α}
variable {states controls finerStates finerControls : Grid α} {horizon : Nat}
variable {table : Table α states.size horizon} {finer : Table α finerStates.size horizon}

/-- From one time to the time before it: if no cost-to-go of a common point is higher in the finer
table, then no cost of a common point is. -/
theorem IsSolution.atMost_step [MonotoneNumber α]
    (hsolution : IsSolution value states controls table)
    (hfiner : IsSolution value finerStates finerControls finer)
    (hcontrols : ∀ control ∈ controls.points, control ∈ finerControls.points) (time : Fin horizon)
    (hsnap : ∀ state ∈ states.points, ∀ control ∈ controls.points, ∀ successor,
      value .dynamics state (some control) time = some successor →
        finerStates.snap successor = states.snap successor)
    (hnext : ∀ row finerRow, finerStates.point finerRow = states.point row →
      ∃ cost finerCost, (table.cost.get time.succ).get row = some cost ∧
        (finer.cost.get time.succ).get finerRow = some finerCost ∧
        Number.atMost finerCost cost = true)
    {row : Fin states.size} {finerRow : Fin finerStates.size}
    (hrow : finerStates.point finerRow = states.point row) :
    ∃ cost finerCost, (table.cost.get time.castSucc).get row = some cost ∧
      (finer.cost.get time.castSucc).get finerRow = some finerCost ∧
      Number.atMost finerCost cost = true := by
  obtain ⟨best, _, cost, hcost, hbest, _⟩ := hsolution.step time row
  obtain ⟨_, _, finerCost, hfinerCost, _, hleast⟩ := hfiner.step time finerRow
  have hstate : states.point row ∈ states.points := Array.getElem_mem row.isLt
  have hcontrol : controls.point best ∈ controls.points := Array.getElem_mem best.isLt
  -- The control of the coarse table is one that the finer minimum ranges over.
  obtain ⟨index, hindex, hpoint⟩ := Array.mem_iff_getElem.mp (hcontrols _ hcontrol)
  obtain ⟨other, hother, hatMost⟩ := hleast ⟨index, hindex⟩
  rw [hrow, show finerControls.point ⟨index, hindex⟩ = controls.point best from hpoint] at hother
  obtain ⟨successor, stage, later, hdynamics, hstage, hlater, rfl, _⟩ :=
    candidate?_eq_some_iff.mp hbest
  obtain ⟨successor', stage', finerLater, hdynamics', hstage', hfinerLater, rfl, hfinite⟩ :=
    candidate?_eq_some_iff.mp hother
  obtain rfl : successor = successor' := Option.some.inj (hdynamics.symm.trans hdynamics')
  obtain rfl : stage = stage' := Option.some.inj (hstage.symm.trans hstage')
  obtain ⟨found, finerFound, hfound, hfinerFound, hle⟩ :=
    hnext _ _ (hsnap _ hstate _ hcontrol successor hdynamics)
  obtain rfl : later = found := Option.some.inj (hlater.symm.trans hfound)
  obtain rfl : finerLater = finerFound := Option.some.inj (hfinerLater.symm.trans hfinerFound)
  exact ⟨stage + later, finerCost, hcost, hfinerCost, OrderedNumber.atMost_trans _ _ _ hatMost
    (MonotoneNumber.add_atMost_add stage finerLater later hfinite hle)⟩

/-- At every time no cost of a common point is higher in the finer table. -/
theorem IsSolution.atMost_of_refinement [MonotoneNumber α]
    (hsolution : IsSolution value states controls table)
    (hfiner : IsSolution value finerStates finerControls finer)
    (hcomplete : table.isComplete = true)
    (hcontrols : ∀ control ∈ controls.points, control ∈ finerControls.points)
    (hsnap : ∀ state ∈ states.points, ∀ control ∈ controls.points, ∀ time < horizon, ∀ successor,
      value .dynamics state (some control) (time : Nat) = some successor →
        finerStates.snap successor = states.snap successor)
    (steps : Nat) {time : Nat} (htime : time < horizon + 1) (hsteps : time + steps = horizon)
    (row : Fin states.size) (finerRow : Fin finerStates.size)
    (hrow : finerStates.point finerRow = states.point row) :
    ∃ cost finerCost, (table.cost.get ⟨time, htime⟩).get row = some cost ∧
      (finer.cost.get ⟨time, htime⟩).get finerRow = some finerCost ∧
      Number.atMost finerCost cost = true := by
  induction steps generalizing time row finerRow with
  | zero =>
      obtain rfl : time = horizon := hsteps
      obtain ⟨cost, hcost, hterminal⟩ := hsolution.last row
      obtain ⟨finerCost, hfinerCost, hfinerTerminal⟩ := hfiner.last finerRow
      rw [hrow, hterminal] at hfinerTerminal
      obtain rfl := Option.some.inj hfinerTerminal
      have hfinite := (table.isComplete_iff.mp hcomplete).1 time htime row row.isLt
      rw [show table.cost[time][row.val] = some cost from hcost] at hfinite
      exact ⟨cost, cost, hcost, hfinerCost, OrderedNumber.atMost_refl _ hfinite⟩
  | succ steps ih =>
      have hstage : time < horizon := by omega
      exact hsolution.atMost_step hfiner hcontrols ⟨time, hstage⟩
        (fun state hstate control hcontrol => hsnap state hstate control hcontrol time hstage)
        (ih (Nat.succ_lt_succ hstage) (by omega : time + 1 + steps = horizon)) hrow

end Recursion

namespace Tracking

/-- The rational points with the middles between them. -/
def halvedGrid : Grid Rat where
  name := "halved"
  points := #[-1, -1 / 2, 0, 1 / 2, 1]
  nonempty := by decide
  finite := fun _ _ => rfl
  increasing := by
    have hrises : risesFrom (#[-1, -1 / 2, 0, 1 / 2, 1] : Array Rat) 0 = true := by decide +kernel
    exact fun index hnext => less_of_risesFrom hrises index (Nat.zero_le _) hnext

/-- No sum of a coarse state and a coarse control falls on a middle, and those beyond the coarse
states are moved to the same ends. -/
theorem system_snapsAlike (horizon : Nat) :
    ((system Rat).problem true).SnapsAlike rationalGrid rationalGrid halvedGrid horizon := by
  have hplaces : ∀ state ∈ rationalGrid.points, ∀ control ∈ rationalGrid.points,
      halvedGrid.snap ((system Rat).next state control) =
        rationalGrid.snap ((system Rat).next state control) := by
    decide +kernel
  intro state hstate control hcontrol time _ successor hsuccessor
  obtain rfl : (system Rat).next state control = successor := Except.ok.inj hsuccessor
  exact hplaces state hstate control hcontrol

end Tracking

namespace GridProblem

/-- A solve on finer grids, with more states and more controls, stores at most the cost that a solve
on the coarse grids stores for the same state and time, if no successor of the coarse grids is moved
to another place on the finer ones.  With the same states it never is. -/
theorem cost_atMost_of_refinement [MonotoneNumber α] {problem : Problem α}
    (helementwise : problem.vectorized = true → problem.ActsAs problem.pointResult)
    {states controls finerStates finerControls : Grid α}
    (hstates : ∀ state ∈ states.points, state ∈ finerStates.points)
    (hcontrols : ∀ control ∈ controls.points, control ∈ finerControls.points) (horizon : Nat) :
    (states.points = finerStates.points →
      problem.SnapsAlike states controls finerStates horizon) ∧
    (problem.SnapsAlike states controls finerStates horizon →
      ∀ (execution finerExecution : Execution) (table : Table α states.size horizon)
        (finer : Table α finerStates.size horizon),
        solve ⟨problem, states, controls⟩ execution horizon = .ok table →
        solve ⟨problem, finerStates, finerControls⟩ finerExecution horizon = .ok finer →
          ∀ row, (∃ finerRow, finerStates.point finerRow = states.point row) ∧
            ∀ finerRow, finerStates.point finerRow = states.point row →
              ∀ time : Fin (horizon + 1), ∃ cost finerCost,
                (table.cost.get time).get row = some cost ∧
                (finer.cost.get time).get finerRow = some finerCost ∧
                Number.atMost finerCost cost = true) := by
  constructor
  · intro hpoints state _ control _ time _ successor _
    exact Grid.snap_eq_of_points_eq hpoints.symm successor
  · intro hsnap execution finerExecution table finer hsolve hfinerSolve row
    have hacts := Problem.actsAs_pointResult helementwise
    obtain ⟨hsolution, hcomplete⟩ := isSolution_of_solve hacts hsolve
    obtain ⟨hfiner, _⟩ := isSolution_of_solve hacts hfinerSolve
    constructor
    · obtain ⟨index, hindex, hpoint⟩ :=
        Array.mem_iff_getElem.mp (hstates _ (Array.getElem_mem row.isLt))
      exact ⟨⟨index, hindex⟩, hpoint⟩
    · intro finerRow hrow ⟨time, htime⟩
      refine hsolution.atMost_of_refinement hfiner hcomplete hcontrols ?_ (horizon - time) htime
        (by omega : time + (horizon - time) = horizon) row finerRow hrow
      intro state hstate control hcontrol earlier hearlier successor hsuccessor
      exact hsnap state hstate control hcontrol earlier hearlier successor
        ((problem.evaluate_eq_ok_iff _ _ _ _ _).mpr hsuccessor)

/-- Over two steps the middles raise no cost of the tracking problem, and they lower the cost of the
highest state at the first time. -/
theorem tracking_refined_cost_atMost :
    ∃ table finer,
      solve ⟨(Tracking.system Rat).problem true, Tracking.rationalGrid, Tracking.rationalGrid⟩
        .standard 2 = .ok table ∧
      solve ⟨(Tracking.system Rat).problem true, Tracking.halvedGrid, Tracking.halvedGrid⟩
        .standard 2 = .ok finer ∧
      (table.cost.get 0).get ⟨2, by decide⟩ = some 3 ∧
      (finer.cost.get 0).get ⟨4, by decide⟩ = some (11 / 4) ∧
      ∀ (row : Fin 3) (time : Fin 3), ∃ cost finerCost,
        (table.cost.get time).get row = some cost ∧
        (finer.cost.get time).get ⟨2 * row, show 2 * row.val < 5 by omega⟩ = some finerCost ∧
        Number.atMost finerCost cost = true := by
  have hgrids : ∀ point ∈ Tracking.rationalGrid.points, point ∈ Tracking.halvedGrid.points := by
    decide +kernel
  have hcommon : ∀ row : Fin 3, Tracking.halvedGrid.point ⟨2 * row,
      show 2 * row.val < 5 by omega⟩ = Tracking.rationalGrid.point row
    | 0 => rfl
    | 1 => rfl
    | 2 => rfl
  have hcoarse : (solve ⟨(Tracking.system Rat).problem true, Tracking.rationalGrid,
      Tracking.rationalGrid⟩ .standard 2).toOption.map (fun table =>
        (table.cost.get 0).get ⟨2, by decide⟩) = some (some 3) := by
    decide +kernel
  have hfine : (solve ⟨(Tracking.system Rat).problem true, Tracking.halvedGrid,
      Tracking.halvedGrid⟩ .standard 2).toOption.map (fun finer =>
        (finer.cost.get 0).get ⟨4, by decide⟩) = some (some (11 / 4)) := by
    decide +kernel
  obtain ⟨table, htable, hthree⟩ := Option.map_eq_some_iff.mp hcoarse
  obtain ⟨finer, hfiner, hless⟩ := Option.map_eq_some_iff.mp hfine
  rw [toOption_eq_some_iff] at htable hfiner
  obtain ⟨_, hrefined⟩ := cost_atMost_of_refinement
    (fun _ => (Tracking.system Rat).problem_actsAs_pointResult true) hgrids hgrids 2
  refine ⟨table, finer, htable, hfiner, hthree, hless, fun row time => ?_⟩
  obtain ⟨_, hrows⟩ := hrefined (Tracking.system_snapsAlike 2) .standard .standard table finer
    htable hfiner row
  exact hrows _ (hcommon row) time

end GridProblem

end BellmanGrid
