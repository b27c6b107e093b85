import BellmanGrid.Proofs.FirstMinimum
import BellmanGrid.Proofs.FloatLaws
import BellmanGrid.Proofs.SweepAgreement
import BellmanGrid.Proofs.Tracking

/-!
The costs of a table are optimal on the snapped system.

The snapped system moves from a grid point to the grid point nearest to the successor.  The cost of
a state and a time is at most the total of every sequence of grid controls from there, and the
controls stored in the table attain it.  Totals are added from the right, in the arithmetic of the
solve, and of its addition only the order in the right operand is used.
-/

namespace BellmanGrid

variable {α : Type} [Number α]

namespace Recursion

variable (value : Role → (state : α) → (control : Option α) → (time : Int) → Option α)
variable (states : Grid α)

/-- The stage costs of a control sequence on the snapped system and the terminal cost behind it,
added from the right. -/
def total : (time : Nat) → (sequence : List α) → (state : Fin states.size) → Option α
  | time, [], state => value .terminalCost (states.point state) none time
  | time, control :: rest, state => do
      let successor ← value .dynamics (states.point state) (some control) time
      let stage ← value .stageCost (states.point state) (some control) time
      let later ← total (time + 1) rest (states.nearestIndex successor)
      return stage + later

/-- The control sequence that stored columns give on the snapped system. -/
def follow : (columns : List (Column α states.size)) → (time : Nat) → (state : Fin states.size) →
    Option (List α)
  | [], _, _ => some []
  | column :: rest, time, state => do
      let control ← column.get state
      let successor ← value .dynamics (states.point state) (some control) time
      let later ← follow rest (time + 1) (states.nearestIndex successor)
      return control :: later

variable {value states} {controls : Grid α}

/-- One step of a solution: the stored control has the stored cost, and every control of the grid
costs at least that much. -/
theorem IsSolution.step [OrderedNumber α] {horizon : Nat} {table : Table α states.size horizon}
    (hsolution : IsSolution value states controls table) (time : Fin horizon)
    (state : Fin states.size) :
    ∃ best, (table.policy.get time).get state = some (controls.point best) ∧
      ∃ cost, (table.cost.get time.castSucc).get state = some cost ∧
        candidate? value states (table.cost.get time.succ) time (states.point state)
          (controls.point best) = some cost ∧
        ∀ index, ∃ other,
          candidate? value states (table.cost.get time.succ) time (states.point state)
            (controls.point index) = some other ∧ Number.atMost cost other = true := by
  obtain ⟨choices, hchoices, hcost, hpolicy⟩ := hsolution.stage time
  obtain ⟨costs, hcosts, best, hbest, hchoice⟩ :=
    choice?_eq_some (ofFnM_eq_some_iff.mp hchoices state)
  have hfinite : ∀ index, Number.isFinite (costs.get index) = true := by
    intro index
    obtain ⟨_, _, _, _, _, _, _, hfinite⟩ := candidate?_eq_some_iff.mp (hcosts index)
    exact hfinite
  refine ⟨best, ?_, costs.get best, ?_, hcosts best, ?_⟩
  · rw [hpolicy, get_map, hchoice]
  · rw [hcost, get_map, hchoice]
  · intro index
    refine ⟨costs.get index, hcosts index, ?_⟩
    subst hbest
    exact Stage.firstSmallest_atMost controls.size_pos hfinite index

/-- The stored cost is at most the total of every sequence of grid controls. -/
theorem IsSolution.cost_atMost_total [MonotoneNumber α] {horizon : Nat}
    {table : Table α states.size horizon} (hsolution : IsSolution value states controls table)
    (hcomplete : table.isComplete = true) (sequence : List α)
    (hgrid : ∀ control ∈ sequence, control ∈ controls.points) {time : Nat} (htime : time ≤ horizon)
    (hlength : sequence.length = horizon - time) (state : Fin states.size) :
    ∃ cost sum, table.cost[time][state] = some cost ∧
      total value states time sequence state = some sum ∧ Number.atMost cost sum = true := by
  induction sequence generalizing time state with
  | nil =>
      have hend : time = horizon := by
        rw [List.length_nil] at hlength
        omega
      subst hend
      obtain ⟨cost, hcost, hterminal⟩ := hsolution.last state
      have hfilled :=
        (table.isComplete_iff.mp hcomplete).1 time (Nat.lt_succ_self _) state state.isLt
      refine ⟨cost, cost, hcost, hterminal, OrderedNumber.atMost_refl _ ?_⟩
      rw [show table.cost[time][state.val] = some cost from hcost] at hfilled
      exact hfilled
  | cons control rest ih =>
      have hstage : time < horizon := by
        rw [List.length_cons] at hlength
        omega
      obtain ⟨index, hindex, hpoint⟩ := Array.mem_iff_getElem.mp (hgrid control List.mem_cons_self)
      obtain ⟨best, _, cost, hcost, _, hleast⟩ := hsolution.step ⟨time, hstage⟩ state
      obtain ⟨other, hother, hatMost⟩ := hleast ⟨index, hindex⟩
      rw [show controls.point ⟨index, hindex⟩ = control from hpoint] at hother
      obtain ⟨successor, stage, later, hdynamics, hstageCost, hlater, rfl, hfinite⟩ :=
        candidate?_eq_some_iff.mp hother
      obtain ⟨found, sum, hfound, hsum, hrest⟩ := ih
        (fun other hmem => hgrid other (List.mem_cons_of_mem control hmem)) hstage
        (by rw [List.length_cons] at hlength; omega) (states.nearestIndex successor)
      obtain rfl : later = found := Option.some.inj (hlater.symm.trans hfound)
      refine ⟨cost, stage + sum, hcost, ?_, ?_⟩
      · simp [total, hdynamics, hstageCost, hsum]
      · exact OrderedNumber.atMost_trans _ _ _ hatMost
          (MonotoneNumber.add_atMost_add stage later sum hfinite hrest)

/-- The stored controls attain the stored cost. -/
theorem IsSolution.follow_attains [OrderedNumber α] {horizon : Nat}
    {table : Table α states.size horizon} (hsolution : IsSolution value states controls table)
    (steps : Nat) {time : Nat} (hsteps : time + steps = horizon) (state : Fin states.size) :
    ∃ sequence cost, follow value states (table.policy.toList.drop time) time state =
        some sequence ∧ sequence.length = steps ∧
      (∀ control ∈ sequence, control ∈ controls.points) ∧
      table.cost[time][state] = some cost ∧
      total value states time sequence state = some cost := by
  induction steps generalizing time state with
  | zero =>
      obtain rfl : time = horizon := hsteps
      obtain ⟨cost, hcost, hterminal⟩ := hsolution.last state
      refine ⟨[], cost, ?_, rfl, fun _ hmem => absurd hmem List.not_mem_nil, hcost, hterminal⟩
      rw [List.drop_eq_nil_of_le (by simp)]
      rfl
  | succ steps ih =>
      have htime : time < horizon := by omega
      obtain ⟨best, hpolicy, cost, hcost, hbest, _⟩ := hsolution.step ⟨time, htime⟩ state
      obtain ⟨successor, stage, later, hdynamics, hstageCost, hlater, rfl, _⟩ :=
        candidate?_eq_some_iff.mp hbest
      obtain ⟨rest, found, hfollow, hlength, hgrid, hfound, htotal⟩ := ih
        (by omega : time + 1 + steps = horizon) (states.nearestIndex successor)
      obtain rfl : later = found := Option.some.inj (hlater.symm.trans hfound)
      refine ⟨controls.point best :: rest, stage + later, ?_, by rw [List.length_cons, hlength], ?_,
        hcost, ?_⟩
      · simp [drop_toList table.policy htime, follow, hpolicy, hdynamics, hfollow]
      · intro control hmem
        rcases List.mem_cons.mp hmem with rfl | hrest
        · exact Array.getElem_mem best.isLt
        · exact hgrid control hrest
      · simp [total, hdynamics, hstageCost, htotal]

end Recursion

namespace GridProblem

/-- The cost that a solve stores for a state and a time is at most the total of every sequence of
grid controls on the snapped system, and following the stored controls attains it. -/
theorem cost_isLeast_of_solve [MonotoneNumber α] {task : GridProblem α} {result : PointResult α}
    (hacts : task.problem.ActsAs result) {execution : Execution} {horizon : Nat}
    {table : Table α task.states.size horizon} (hsolve : task.solve execution horizon = .ok table)
    (state : Fin task.states.size) {time : Nat} (htime : time ≤ horizon) :
    ∃ cost, table.cost[time][state] = some cost ∧
      (∀ sequence : List α, sequence.length = horizon - time →
        (∀ control ∈ sequence, control ∈ task.controls.points) →
          ∃ sum, Recursion.total result.finite? task.states time sequence state = some sum ∧
            Number.atMost cost sum = true) ∧
      ∃ sequence, Recursion.follow result.finite? task.states (table.policy.toList.drop time) time
          state = some sequence ∧ sequence.length = horizon - time ∧
        (∀ control ∈ sequence, control ∈ task.controls.points) ∧
        Recursion.total result.finite? task.states time sequence state = some cost := by
  obtain ⟨_, hrecursion, hcomplete⟩ := (solveScheduled_eq_ok_iff hacts execution.chunkSize_pos
    Schedule.sequential_reorders table).mp hsolve
  have hsolution := Recursion.isSolution_of_solve hrecursion
  obtain ⟨sequence, cost, hfollow, hlength, hgrid, hcost, htotal⟩ :=
    hsolution.follow_attains (horizon - time) (by omega : time + (horizon - time) = horizon) state
  refine ⟨cost, hcost, ?_, sequence, hfollow, hlength, hgrid, htotal⟩
  intro other hother hmem
  obtain ⟨found, sum, hfound, hsum, hatMost⟩ :=
    hsolution.cost_atMost_total hcomplete other hmem htime hother state
  obtain rfl : cost = found := Option.some.inj (hcost.symm.trans hfound)
  exact ⟨sum, hsum, hatMost⟩

/-- From the lowest state the tracking problem costs four over two steps, and no less. -/
theorem tracking_cost_isLeast :
    ∃ table, (Tracking.task true).solve .standard 2 = .ok table ∧
      table.cost[0][Tracking.lowest true] = some (Number.ofInt 4) ∧
      ∀ sequence : List Float, sequence.length = 2 →
        (∀ control ∈ sequence, control ∈ (Tracking.task true).controls.points) →
          ∃ sum, Recursion.total (Tracking.system Float).pointResult.finite?
              (Tracking.task true).states 0 sequence (Tracking.lowest true) = some sum ∧
            Number.atMost (Number.ofInt 4) sum = true := by
  have hvalue : ((Tracking.task true).solve .standard 2).toOption.map (fun table =>
      table.cost[0][Tracking.lowest true]) = some (some (Number.ofInt 4)) := by
    decide +kernel
  cases hsolve : (Tracking.task true).solve .standard 2 with
  | error error => simp [hsolve, Except.toOption] at hvalue
  | ok table =>
      rw [hsolve] at hvalue
      have hfour : table.cost[0][Tracking.lowest true] = some (Number.ofInt 4) :=
        Option.some.inj hvalue
      obtain ⟨cost, hcost, hleast, _⟩ := cost_isLeast_of_solve
        ((Tracking.system Float).problem_actsAs true) hsolve (Tracking.lowest true)
        (Nat.zero_le 2)
      obtain rfl : cost = Number.ofInt 4 := Option.some.inj (hcost.symm.trans hfour)
      exact ⟨table, rfl, hfour, hleast⟩

end GridProblem

end BellmanGrid
