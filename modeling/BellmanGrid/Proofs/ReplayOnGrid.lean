import BellmanGrid.Proofs.SweepAgreement
import BellmanGrid.Solution.Basic

/-!
Replays that stay on the grid.

A replay looks a control up at the grid point nearest to its state and goes on from the state
itself.  As long as every visited state is its own nearest point, each step is the one whose cost
the table holds, so the stored cost is the cost along the visited states, added from the right.
This is so in every arithmetic.
-/

namespace BellmanGrid

variable {α : Type} [Number α]

namespace Recursion

/-- The costs of visited states and the controls between them, added from the right. -/
def costAlong (value : Role → (state : α) → (control : Option α) → (time : Int) → Option α) :
    (time : Nat) → (visited chosen : List α) → Option α
  | time, [state], [] => value .terminalCost state none time
  | time, state :: visited, control :: chosen => do
      let stage ← value .stageCost state (some control) time
      let later ← costAlong value (time + 1) visited chosen
      return stage + later
  | _, _, _ => none

variable {value : Role → (state : α) → (control : Option α) → (time : Int) → Option α}
variable {problem : Problem α} {states controls : Grid α}

/-- A step of a replay: the stored control, the successor, and the replay from there. -/
theorem follow_cons_eq_ok {column : Vector (Option α) states.size}
    {rest : List (Vector (Option α) states.size)} {time : Nat} {state : α}
    {visited chosen : List α}
    (hfollow : Replay.follow problem states (column :: rest) time state = .ok (visited, chosen)) :
    ∃ control successor later controlsLater,
      column.get (states.nearestIndex state) = some control ∧
      problem.evaluate .dynamics state (some control) time = .ok successor ∧
      Replay.follow problem states rest (time + 1) successor = .ok (later, controlsLater) ∧
      visited = state :: later ∧ chosen = control :: controlsLater := by
  rw [Replay.follow] at hfollow
  split at hfollow
  · cases hfollow
  · next control hcontrol =>
      simp only [bind_eq_ok_iff, mapError_eq_ok_iff] at hfollow
      obtain ⟨successor, hsuccessor, ⟨later, controlsLater⟩, hlater, hresult⟩ := hfollow
      have hpair := Except.ok.inj hresult
      rw [Prod.mk.injEq] at hpair
      exact ⟨control, successor, later, controlsLater, hcontrol, hsuccessor, hlater,
        hpair.1.symm, hpair.2.symm⟩

/-- From a time on, the stored cost of the state that a replay starts from is the cost along the
replay, if the replay stays on the grid. -/
theorem IsSolution.costAlong_follow {horizon : Nat} {table : Table α states.size horizon}
    (hsolution : IsSolution value states controls table)
    (hdynamics : ∀ state control (time : Nat) successor,
      problem.evaluate .dynamics state (some control) time = .ok successor →
        value .dynamics state (some control) time = some successor)
    (steps : Nat) {time : Nat} (htime : time < horizon + 1) (hsteps : time + steps = horizon)
    {state : α} {visited chosen : List α}
    (hfollow : Replay.follow problem states (table.policy.toList.drop time) time state =
      .ok (visited, chosen))
    (hfixed : ∀ found ∈ visited, states.snap found = found) :
    ∃ cost, (table.cost.get ⟨time, htime⟩).get (states.nearestIndex state) = some cost ∧
      costAlong value time visited chosen = some cost ∧
      visited.length = steps + 1 ∧ chosen.length = steps := by
  induction steps generalizing time state visited chosen with
  | zero =>
      obtain rfl : time = horizon := hsteps
      rw [List.drop_eq_nil_of_le (by simp), Replay.follow, Except.ok.injEq, Prod.mk.injEq]
        at hfollow
      obtain ⟨rfl, rfl⟩ := hfollow
      obtain ⟨cost, hcost, hterminal⟩ := hsolution.last (states.nearestIndex state)
      have hstate : states.point (states.nearestIndex state) = state :=
        hfixed state List.mem_cons_self
      rw [hstate] at hterminal
      exact ⟨cost, hcost, hterminal, rfl, rfl⟩
  | succ steps ih =>
      have hearlier : time < horizon := by omega
      rw [drop_toList table.policy hearlier] at hfollow
      obtain ⟨control, successor, later, controlsLater, hcontrol, hsuccessor, hrest, rfl, rfl⟩ :=
        follow_cons_eq_ok hfollow
      obtain ⟨found, hfound, halong, hvisited, hchosen⟩ := ih
        (Nat.succ_lt_succ hearlier) (by omega : time + 1 + steps = horizon) hrest
        fun other hmem => hfixed other (List.mem_cons_of_mem state hmem)
      have hstate : states.point (states.nearestIndex state) = state :=
        hfixed state List.mem_cons_self
      obtain ⟨best, cost, hbest, hcost, hcandidate⟩ :=
        hsolution.stored ⟨time, hearlier⟩ (states.nearestIndex state)
      obtain rfl : control = best := Option.some.inj (hcontrol.symm.trans hbest)
      rw [hstate] at hcandidate
      obtain ⟨next, stage, rest, hnext, hstage, hlookup, rfl, _⟩ :=
        candidate?_eq_some_iff.mp hcandidate
      obtain rfl : next = successor :=
        Option.some.inj (hnext.symm.trans (hdynamics state control time successor hsuccessor))
      obtain rfl : rest = found := Option.some.inj (hlookup.symm.trans hfound)
      refine ⟨stage + rest, hcost, ?_, by rw [List.length_cons, hvisited],
        by rw [List.length_cons, hchosen]⟩
      simp [costAlong, hstage, halong]

end Recursion

namespace GridProblem

variable {task : GridProblem α} {execution : Execution} {initial : α} {horizon : Nat}
  {solution : Solution α task}

/-- A run solves, and replays the table, which is complete. -/
theorem exists_simulate_of_run (hrun : task.run execution initial horizon = .ok solution) :
    ∃ table hcomplete, task.solve execution horizon = .ok table ∧
      Replay.simulate ⟨task.problem, task.states, horizon, table, hcomplete⟩ initial =
        .ok solution.trajectory ∧ solution.horizon = horizon := by
  simp only [run, replay, bind_eq_ok_iff, mapError_eq_ok_iff] at hrun
  obtain ⟨table, hsolve, ready, hready, trajectory, hsimulate, hresult⟩ := hrun
  obtain rfl := Except.ok.inj hresult
  rw [Replay.ofTable, dif_pos rfl] at hready
  simp only at hready
  split at hready
  · next hcomplete =>
      obtain rfl := Except.ok.inj hready
      exact ⟨table, hcomplete, hsolve, hsimulate, rfl⟩
  · cases hready

/-- A run is a solve and a replay of its table, and its cost is the one stored for the start. -/
theorem run_eq_ok (hrun : task.run execution initial horizon = .ok solution) :
    ∃ table, task.solve execution horizon = .ok table ∧
      Replay.follow task.problem task.states table.policy.toList 0 initial =
        .ok (solution.trajectory.states, solution.trajectory.controls) ∧
      table.cost[0][task.states.nearestIndex initial] = some solution.trajectory.cost := by
  obtain ⟨table, _, hsolve, hsimulate, _⟩ := exists_simulate_of_run hrun
  simp only [Replay.simulate, bind_eq_ok_iff] at hsimulate
  obtain ⟨⟨visited, chosen⟩, hfollow, hcost⟩ := hsimulate
  simp only at hcost
  split at hcost
  · next cost hstored =>
      rw [← Except.ok.inj hcost]
      exact ⟨table, hsolve, hfollow, hstored⟩
  · cases hcost

/-- The cost of a run is the cost along its trajectory, if the trajectory stays on the grid. -/
theorem costAlong_of_run {result : PointResult α} (hacts : task.problem.ActsAs result)
    (hdynamics : ∀ state control (time : Nat) successor,
      task.problem.evaluate .dynamics state (some control) time = .ok successor →
        result.finite? .dynamics state (some control) time = some successor)
    (hrun : task.run execution initial horizon = .ok solution)
    (hfixed : ∀ state ∈ solution.trajectory.states, task.states.snap state = state) :
    Recursion.costAlong result.finite? 0 solution.trajectory.states solution.trajectory.controls =
        some solution.trajectory.cost ∧
      solution.trajectory.states.length = horizon + 1 ∧
      solution.trajectory.controls.length = horizon := by
  obtain ⟨table, hsolve, hfollow, hstored⟩ := run_eq_ok hrun
  obtain ⟨hsolution, _⟩ := isSolution_of_solve hacts hsolve
  obtain ⟨cost, hcost, halong, hvisited, hchosen⟩ := hsolution.costAlong_follow hdynamics horizon
    (Nat.succ_pos horizon) (Nat.zero_add horizon) hfollow hfixed
  obtain rfl : cost = solution.trajectory.cost := Option.some.inj (hcost.symm.trans hstored)
  exact ⟨halong, hvisited, hchosen⟩

end GridProblem

end BellmanGrid
