import BellmanGrid.Proofs.CostComparison
import BellmanGrid.Proofs.ReplayPath
import Mathlib.Tactic.Ring

/-!
Costs under a positive factor and with an offset for each time.

The costs-to-go of all times are changed along with the costs, each time by a map of its own.  As
long as these maps keep the order and carry candidates to candidates, every comparison of a scan has
the same outcome, so the scan keeps the same control and the sweep the same policy.  In exact
arithmetic multiplying by a positive factor and adding the offsets that are still to come is such a
change.
-/

namespace BellmanGrid

variable {α : Type}

/-- Entries that compare alike have the same first smallest one. -/
theorem Stage.firstSmallestFrom_congr [Number α] {count : Nat} {first second : Fin count → α}
    (hless : ∀ left right, Number.less (first left) (first right) =
      Number.less (second left) (second right)) (start : Nat) (best : Fin count) :
    firstSmallestFrom first start best = firstSmallestFrom second start best := by
  fun_induction firstSmallestFrom second start best with
  | case1 start best hstart ih =>
      rw [firstSmallestFrom, dif_pos hstart]
      simp only [hless]
      exact ih
  | case2 start best hstart => rw [firstSmallestFrom, dif_neg hstart]

/-! ### Tables with changed costs -/

namespace Table

variable {states horizon : Nat}

/-- The table with every cost changed by the map of its time, and the same controls. -/
def mapCosts (table : Table α states horizon) (change : Nat → α → α) : Table α states horizon :=
  { table with
    cost := Vector.ofFn fun time => (table.cost.get time).map (Option.map (change time)) }

variable (change : Nat → α → α)

theorem get_cost_mapCosts (table : Table α states horizon) (time : Fin (horizon + 1)) :
    (table.mapCosts change).cost.get time = (table.cost.get time).map (Option.map (change time)) :=
  Vector.getElem_ofFn time.isLt

theorem mapCosts_withStage (table : Table α states horizon) (time : Fin horizon)
    (choices : Vector (Choice α) states) :
    (table.withStage time choices).mapCosts change = (table.mapCosts change).withStage time
      (choices.map fun choice => ⟨change time choice.cost, choice.control⟩) := by
  simp only [mapCosts, withStage, withColumns, Table.mk.injEq, and_true]
  constructor
  · apply Vector.ext
    intro other hother
    by_cases hequal : time.val = other
    · subst hequal
      simp [get_eq_getElem]
    · simp [get_eq_getElem, Vector.getElem_set_ne, hequal]
  · simp [Function.comp_def]

theorem mapCosts_withEnds_blank (costs : Vector α states) :
    ((blank : Table α states horizon).withEnds costs).mapCosts change =
      blank.withEnds (costs.map (change horizon)) := by
  simp only [mapCosts, withEnds, blank, Table.mk.injEq, and_true]
  apply Vector.ext
  intro time htime
  by_cases hequal : horizon = time
  · subst hequal
    simp [get_eq_getElem]
  · simp [get_eq_getElem, Vector.getElem_set_ne, hequal]

end Table

variable [Number α]

namespace Recursion

variable {value changed : Role → (state : α) → (control : Option α) → (time : Int) → Option α}
variable {states controls : Grid α} {horizon : Nat}

/-- Maps of the costs-to-go that keep their order, and carry the terminal costs and the candidates
of a system to those of another one. -/
structure Carries (change : Nat → α → α)
    (value changed : Role → (state : α) → (control : Option α) → (time : Int) → Option α)
    (states controls : Grid α) (horizon : Nat) : Prop where
  less : ∀ time first second, Number.less (change time first) (change time second) =
    Number.less first second
  terminal : ∀ state ∈ states.points, changed .terminalCost state none horizon =
    (value .terminalCost state none horizon).map (change horizon)
  candidate : ∀ (next : Column α states.size), ∀ state ∈ states.points,
    ∀ control ∈ controls.points, ∀ time : Nat, time < horizon →
      candidate? changed states (next.map (Option.map (change (time + 1)))) time state control =
        (candidate? value states next time state control).map (change time)

section Carries

variable {change : Nat → α → α}

/-- A state keeps its control, and its cost is changed. -/
theorem Carries.choice?_eq_some (hcarries : Carries change value changed states controls horizon)
    {next : Column α states.size} {time : Nat} (htime : time < horizon) {state : α}
    (hstate : state ∈ states.points) {choice : Choice α}
    (hchoice : choice? value states controls next time state = some choice) :
    choice? changed states controls (next.map (Option.map (change (time + 1)))) time state =
      some ⟨change time choice.cost, choice.control⟩ := by
  obtain ⟨costs, hcosts, best, rfl, rfl⟩ := Recursion.choice?_eq_some hchoice
  have hchanged : (Vector.ofFnM fun index => candidate? changed states
      (next.map (Option.map (change (time + 1)))) time state (controls.point index)) =
        some (costs.map (change time)) := by
    rw [ofFnM_eq_some_iff]
    intro index
    rw [hcarries.candidate next state hstate _ (controls.point_mem index) time htime,
      hcosts index, get_map, Option.map_some]
  have hbest : Stage.firstSmallest controls.size_pos (costs.map (change time)).get =
      Stage.firstSmallest controls.size_pos costs.get := by
    apply Stage.firstSmallestFrom_congr
    intro left right
    rw [get_map, get_map, hcarries.less]
  simp only [choice?, hchanged, Option.map_some, hbest, get_map]

theorem Carries.choices?_eq_some (hcarries : Carries change value changed states controls horizon)
    {next : Column α states.size} {time : Nat} (htime : time < horizon)
    {choices : Vector (Choice α) states.size}
    (hchoices : choices? value states controls next time = some choices) :
    choices? changed states controls (next.map (Option.map (change (time + 1)))) time =
      some (choices.map fun choice => ⟨change time choice.cost, choice.control⟩) := by
  simp only [choices?, ofFnM_eq_some_iff] at hchoices ⊢
  intro state
  rw [get_map]
  exact hcarries.choice?_eq_some htime (states.point_mem state) (hchoices state)

/-- What is filled below a time is what the other system fills, with changed costs. -/
theorem Carries.down_eq_ok (hcarries : Carries change value changed states controls horizon)
    {time : Nat} {hbound : time ≤ horizon} {table final : Table α states.size horizon}
    (hdown : down value states controls time hbound table = .ok final) :
    down changed states controls time hbound (table.mapCosts change) =
      .ok (final.mapCosts change) := by
  induction time generalizing table with
  | zero =>
      obtain rfl := Except.ok.inj hdown
      rfl
  | succ time ih =>
      rw [down] at hdown
      split at hdown
      · cases hdown
      · next choices hchoices =>
          have hchanged := hcarries.choices?_eq_some hbound hchoices
          rw [down, Table.get_cost_mapCosts]
          simp only [Fin.val_succ, hchanged]
          rw [← Table.mapCosts_withStage change table ⟨time, hbound⟩]
          exact ih hdown

theorem Carries.solve_eq_ok (hcarries : Carries change value changed states controls horizon)
    {table : Table α states.size horizon}
    (hsolve : solve value states controls horizon = .ok table) :
    solve changed states controls horizon = .ok (table.mapCosts change) := by
  unfold solve at hsolve
  split at hsolve
  · cases hsolve
  · next costs hcosts =>
      have hends : ends? changed states horizon = some (costs.map (change horizon)) := by
        simp only [ends?, ofFnM_eq_some_iff] at hcosts ⊢
        intro state
        rw [hcarries.terminal _ (states.point_mem state), hcosts state, get_map,
          Option.map_some]
      have hdown := hcarries.down_eq_ok hsolve
      rw [Table.mapCosts_withEnds_blank] at hdown
      simp only [solve, hends, hdown]

end Carries

/-- On the grids the costs are multiplied by a factor, the offset of their time is added, and the
dynamics are the same. -/
structure RescaledBy (factor : α) (offset : Nat → α)
    (value changed : Role → (state : α) → (control : Option α) → (time : Int) → Option α)
    (states controls : Grid α) (horizon : Nat) : Prop where
  dynamics : SameDynamics changed value states controls horizon
  stage : ∀ state ∈ states.points, ∀ control ∈ controls.points, ∀ time : Nat, time < horizon →
    changed .stageCost state (some control) time =
      (value .stageCost state (some control) time).map fun cost => factor * cost + offset time
  terminal : ∀ state ∈ states.points, changed .terminalCost state none horizon =
    (value .terminalCost state none horizon).map fun cost => factor * cost + offset horizon

/-- The offsets of so many steps from a time on and the one behind them, added from the right. -/
def offsetsFrom (offset : Nat → α) : (steps time : Nat) → α
  | 0, time => offset time
  | steps + 1, time => offset time + offsetsFrom offset steps (time + 1)

/-- A cost-to-go with a factor and all offsets that are still to come. -/
def rescale (factor : α) (offset : Nat → α) (horizon time : Nat) (cost : α) : α :=
  factor * cost + offsetsFrom offset (horizon - time) time

section Exact

variable (K : Type) [Field K] [LinearOrder K] [IsStrictOrderedRing K] [ExactNumber α K]

theorem value_offsetsFrom (offset : Nat → α) (steps time : Nat) :
    (ExactNumber.value (offsetsFrom offset steps time) : K) =
      ∑ step ∈ Finset.Icc time (time + steps), ExactNumber.value (offset step) := by
  induction steps generalizing time with
  | zero => simp [offsetsFrom]
  | succ steps ih =>
      rw [offsetsFrom, ExactNumber.value_add, ih,
        ← Finset.add_sum_Ioc_eq_sum_Icc (Nat.le_add_right time (steps + 1)),
        ← Finset.Icc_add_one_left_eq_Ioc, Nat.add_right_comm, Nat.add_assoc]

theorem value_rescale (factor : α) (offset : Nat → α) {time : Nat} (htime : time ≤ horizon)
    (cost : α) :
    (ExactNumber.value (rescale factor offset horizon time cost) : K) =
      ExactNumber.value factor * ExactNumber.value cost +
        ∑ step ∈ Finset.Icc time horizon, ExactNumber.value (offset step) := by
  rw [rescale, ExactNumber.value_add, ExactNumber.value_mul, value_offsetsFrom,
    Nat.add_sub_cancel' htime]

include K

theorem sum?_of_exact (stage later : α) : Stage.sum? stage (some later) = some (stage + later) :=
  sum?_eq_some_iff.mpr ⟨later, rfl, rfl, ExactNumber.isFinite K _⟩

/-- In exact arithmetic rescaled costs carry the costs-to-go along. -/
theorem RescaledBy.carries {factor : α} {offset : Nat → α}
    (hrescaled : RescaledBy factor offset value changed states controls horizon)
    (hfactor : Number.less Number.zero factor = true) :
    Carries (rescale factor offset horizon) value changed states controls horizon where
  less time first second := by
    rw [ExactNumber.less_iff (K := K), Number.zero, ExactNumber.value_ofInt, Int.cast_zero]
      at hfactor
    rw [Bool.eq_iff_iff, ExactNumber.less_iff (K := K), ExactNumber.less_iff (K := K), rescale,
      rescale, ExactNumber.value_add, ExactNumber.value_add, ExactNumber.value_mul,
      ExactNumber.value_mul, add_lt_add_iff_right, mul_lt_mul_iff_right₀ hfactor]
  terminal state hstate := by
    have hlast : rescale factor offset horizon horizon = fun cost =>
        factor * cost + offset horizon := by
      funext cost
      rw [rescale, Nat.sub_self, offsetsFrom]
    rw [hrescaled.terminal state hstate, hlast]
  candidate next state hstate control hcontrol time htime := by
    have hsteps : horizon - time = horizon - (time + 1) + 1 := by omega
    rw [candidate?, candidate?, hrescaled.dynamics state hstate control hcontrol time htime,
      hrescaled.stage state hstate control hcontrol time htime]
    cases value .dynamics state (some control) time with
    | none => rfl
    | some successor =>
        cases value .stageCost state (some control) time with
        | none => rfl
        | some stage =>
            simp only [Option.bind_eq_bind, Option.bind_some, Option.map_some, get_map]
            cases next.get (states.nearestIndex successor) with
            | none => rfl
            | some later =>
                rw [Option.map_some, sum?_of_exact K, sum?_of_exact K, Option.map_some,
                  Option.some.injEq]
                apply ExactNumber.value_injective (K := K)
                simp only [rescale, hsteps, offsetsFrom, ExactNumber.value_add,
                  ExactNumber.value_mul]
                ring

end Exact

end Recursion

/-- The tracking problem with twice its costs and, at each time, the time on top of them. -/
def Tracking.rescaledProblem : Problem Rat :=
  Problem.ofFunctions "RescaledProblem" false (fun _ => (Tracking.system Rat).next)
    (fun time state control => 2 * (Tracking.system Rat).stageCost state control + time)
    (fun time state => 2 * (Tracking.system Rat).terminalCost state + time)

/-! ### Replays -/

/-- Problems with the same dynamics have the same replays. -/
theorem Replay.follow_congr {first second : Problem α} {states : Grid α}
    (hdynamics : ∀ state control (time : Nat),
      first.dynamics state control time = second.dynamics state control time)
    (columns : List (Vector (Option α) states.size)) (time : Nat) (state : α) :
    follow first states columns time state = follow second states columns time state := by
  have hevaluate : ∀ state control (time : Nat),
      first.evaluate .dynamics state (some control) time =
        second.evaluate .dynamics state (some control) time := by
    intro state control time
    simp only [Problem.evaluate, Problem.callAt, hdynamics]
  induction columns generalizing time state with
  | nil => rfl
  | cons column rest ih => simp only [follow, hevaluate, ih]

namespace GridProblem

/-- A run that has a table ends as the replay of its controls does. -/
theorem map_run_of_solve {task : GridProblem α} {execution : Execution} {horizon : Nat}
    {table : Table α task.states.size horizon} (hsolve : task.solve execution horizon = .ok table)
    (hcomplete : table.isComplete = true) (initial : α) :
    (task.run execution initial horizon).map (fun solution =>
        (solution.trajectory.states, solution.trajectory.controls)) =
      (Replay.follow task.problem task.states table.policy.toList 0 initial).mapError
        RunError.replay := by
  obtain ⟨cost, hcell, _⟩ := Table.exists_get_cost hcomplete ⟨0, Nat.succ_pos horizon⟩
    (task.states.nearestIndex initial)
  have hready : Replay.ofTable task.problem task.states table =
      .ok ⟨task.problem, task.states, horizon, table, hcomplete⟩ :=
    @Replay.ofTable_self α _ ⟨task.problem, task.states, horizon, table, hcomplete⟩
  simp only [run, hsolve, replay, hready, Replay.simulate, Except.mapError, bind, Except.bind]
  cases Replay.follow task.problem task.states table.policy.toList 0 initial with
  | error error => rfl
  | ok visited =>
      simp only [hcell]
      rfl

open Recursion in
/-- In exact arithmetic costs under a positive factor and with an offset for each time have the same
policy, costs-to-go under that factor and with the offsets still to come, and from every initial
state the same replay. -/
theorem rescaled_of_solve (K : Type) [Field K] [LinearOrder K] [IsStrictOrderedRing K]
    [ExactNumber α K] {problem changed : Problem α} {result changedResult : PointResult α}
    (hacts : problem.ActsAs result) (hchangedActs : changed.ActsAs changedResult)
    (hdynamics : ∀ state control (time : Nat),
      changed.dynamics state control time = problem.dynamics state control time)
    {states controls : Grid α} {horizon : Nat} {factor : α} {offset : Nat → α}
    (hrescaled : RescaledBy factor offset result.finite? changedResult.finite? states controls
      horizon)
    (hfactor : Number.less Number.zero factor = true) {execution : Execution}
    {table : Table α states.size horizon}
    (hsolve : solve ⟨problem, states, controls⟩ execution horizon = .ok table)
    (changedExecution : Execution) :
    ∃ rescaled, solve ⟨changed, states, controls⟩ changedExecution horizon = .ok rescaled ∧
      rescaled.policy = table.policy ∧
      (∀ (time : Fin (horizon + 1)) (state : Fin states.size), ∃ cost rescaledCost,
        (table.cost.get time).get state = some cost ∧
        (rescaled.cost.get time).get state = some rescaledCost ∧
        (ExactNumber.value rescaledCost : K) =
          ExactNumber.value factor * ExactNumber.value cost +
            ∑ step ∈ Finset.Icc time.val horizon, ExactNumber.value (offset step)) ∧
      ∀ initial,
        (run ⟨changed, states, controls⟩ changedExecution initial horizon).map (fun solution =>
          (solution.trajectory.states, solution.trajectory.controls)) =
        (run ⟨problem, states, controls⟩ execution initial horizon).map (fun solution =>
          (solution.trajectory.states, solution.trajectory.controls)) := by
  obtain ⟨hsize, hrecursion, hcomplete⟩ := (solve_eq_ok_iff hacts).mp hsolve
  have hchanged := (hrescaled.carries K hfactor).solve_eq_ok hrecursion
  have hfilled := (Recursion.isSolution_of_solve hchanged).isComplete
    fun _ cost _ => ExactNumber.isFinite K cost
  have hresolved : solve ⟨changed, states, controls⟩ changedExecution horizon =
      .ok (table.mapCosts (rescale factor offset horizon)) :=
    (solve_eq_ok_iff hchangedActs).mpr ⟨hsize, hchanged, hfilled⟩
  refine ⟨_, hresolved, rfl, ?_, ?_⟩
  · intro time state
    obtain ⟨cost, hget, _⟩ := Table.exists_get_cost hcomplete time state
    refine ⟨cost, rescale factor offset horizon time cost, hget, ?_,
      value_rescale K factor offset (Nat.le_of_lt_succ time.isLt) cost⟩
    rw [Table.get_cost_mapCosts, get_map, hget, Option.map_some]
  · intro initial
    rw [map_run_of_solve hresolved hfilled, map_run_of_solve hsolve hcomplete,
      Replay.follow_congr hdynamics]
    rfl

/-- Twice the tracking costs with the times on top: the four from the lowest state become eleven,
and from between two states the same states are visited. -/
theorem tracking_rescaled :
    ∃ table rescaled,
      solve ⟨(Tracking.system Rat).problem true, Tracking.rationalGrid, Tracking.rationalGrid⟩
        .standard 2 = .ok table ∧
      solve ⟨Tracking.rescaledProblem, Tracking.rationalGrid, Tracking.rationalGrid⟩ .standard 2 =
        .ok rescaled ∧
      rescaled.policy = table.policy ∧
      (table.cost.get 0).get ⟨0, by decide⟩ = some 4 ∧
      (rescaled.cost.get 0).get ⟨0, by decide⟩ = some 11 ∧
      (run ⟨Tracking.rescaledProblem, Tracking.rationalGrid, Tracking.rationalGrid⟩ .standard
          (1 / 4) 2).map (fun solution =>
            (solution.trajectory.states, solution.trajectory.controls)) =
        (run ⟨(Tracking.system Rat).problem true, Tracking.rationalGrid, Tracking.rationalGrid⟩
          .standard (1 / 4) 2).map (fun solution =>
            (solution.trajectory.states, solution.trajectory.controls)) := by
  have hrescaled : Recursion.RescaledBy (2 : Rat) (fun time => ((time : Int) : Rat))
      (Tracking.system Rat).pointResult.finite? Tracking.rescaledProblem.pointResult.finite?
      Tracking.rationalGrid Tracking.rationalGrid 2 :=
    ⟨fun _ _ _ _ _ _ => rfl, fun _ _ _ _ _ _ => rfl, fun _ _ => rfl⟩
  have hvalue : (solve ⟨(Tracking.system Rat).problem true, Tracking.rationalGrid,
      Tracking.rationalGrid⟩ .standard 2).toOption.map (fun table =>
        (table.cost.get 0).get ⟨0, by decide⟩) = some (some 4) := by
    decide +kernel
  have hsum : (∑ step ∈ Finset.Icc 0 2, ((step : Int) : Rat)) = 3 := by
    decide +kernel
  obtain ⟨table, htable, hfour⟩ := Option.map_eq_some_iff.mp hvalue
  rw [toOption_eq_some_iff] at htable
  obtain ⟨rescaled, hsolve, hpolicy, hcosts, hruns⟩ := rescaled_of_solve Rat
    ((Tracking.system Rat).problem_actsAs true)
    (Problem.actsAs_of_scalar rfl : Tracking.rescaledProblem.ActsAs _) (fun _ _ _ => rfl) hrescaled
    (by decide) htable .standard
  obtain ⟨cost, rescaledCost, hcost, hrescaledCost, hequal⟩ := hcosts 0 ⟨0, by decide⟩
  obtain rfl : cost = 4 := Option.some.inj (hcost.symm.trans hfour)
  have heleven : rescaledCost = 11 := by
    have hstep : rescaledCost = 2 * 4 + ∑ step ∈ Finset.Icc 0 2, ((step : Int) : Rat) := hequal
    rw [hstep, hsum]
    norm_num
  exact ⟨table, rescaled, htable, hsolve, hpolicy, hfour, heleven ▸ hrescaledCost, hruns (1 / 4)⟩

end GridProblem

end BellmanGrid
