import BellmanGrid.Proofs.Agreement
import BellmanGrid.Sweep.Solve

/-!
The backward recursion over whole columns.

The callbacks are taken as one partial function of role, state, control and time, and each column
follows from the one after it in a single step, without blocks, modes or an order of evaluation.
The recursion ends with the time of the first column that has a gap.
-/

namespace BellmanGrid

namespace Table

variable {α : Type} {states horizon : Nat}

/-- The table with the costs at the end of the horizon. -/
def withEnds (table : Table α states horizon) (costs : Vector α states) :
    Table α states horizon :=
  { table with
    cost := table.cost.set horizon (costs.map some) (Nat.lt_succ_self horizon)
    terminalSet := true }

theorem get_cost_withEnds_last (table : Table α states horizon) (costs : Vector α states) :
    (table.withEnds costs).cost.get (Fin.last horizon) = costs.map some :=
  Vector.getElem_set_self _

/-- The table with the choices of one time. -/
def withStage (table : Table α states horizon) (time : Fin horizon)
    (choices : Vector (Choice α) states) : Table α states horizon :=
  table.withColumns time (choices.map fun choice => some choice.cost)
    (choices.map fun choice => some choice.control)

theorem all_toArray_iff {β : Type} {count : Nat} (entries : Vector β count) (test : β → Bool) :
    entries.toArray.all test = true ↔
      ∀ (index : Nat) (_ : index < count), test entries[index] = true := by
  rw [Array.all_eq_true]
  constructor
  · exact fun hall index hindex => hall index (by rwa [Vector.size_toArray])
  · exact fun hall index hindex => hall index (by rwa [Vector.size_toArray] at hindex)

theorem isComplete_iff [Number α] (table : Table α states horizon) :
    table.isComplete = true ↔
      (∀ (time : Nat) (_ : time < horizon + 1) (state : Nat) (_ : state < states),
        isFilled table.cost[time][state] = true) ∧
      ∀ (time : Nat) (_ : time < horizon) (state : Nat) (_ : state < states),
        isFilled table.policy[time][state] = true := by
  simp only [isComplete, Bool.and_eq_true, all_toArray_iff]

end Table

namespace Recursion

variable {α : Type} [Number α]
variable (value : Role → (state : α) → (control : Option α) → (time : Int) → Option α)
variable (states controls : Grid α)

/-- The cost of a control: its stage cost plus the next cost-to-go at the snapped successor. -/
def candidate? (next : Column α states.size) (time : Int) (state control : α) : Option α := do
  let successor ← value .dynamics state (some control) time
  let stage ← value .stageCost state (some control) time
  Stage.sum? stage (next.get (states.nearestIndex successor))

/-- The first of the cheapest controls of a state, if every control has a cost. -/
def choice? (next : Column α states.size) (time : Int) (state : α) : Option (Choice α) :=
  (Vector.ofFnM fun index => candidate? value states next time state (controls.point index)).map
    fun costs =>
      let best := Stage.firstSmallest controls.size_pos costs.get
      ⟨costs.get best, controls.point best⟩

/-- The choices of all states, if every state has one. -/
def choices? (next : Column α states.size) (time : Int) :
    Option (Vector (Choice α) states.size) :=
  Vector.ofFnM fun index => choice? value states controls next time (states.point index)

/-- The terminal costs of all states, if every state has one. -/
def ends? (horizon : Nat) : Option (Vector α states.size) :=
  Vector.ofFnM fun index => value .terminalCost (states.point index) none horizon

/-- Fills the columns below a time, from the last one down, or gives the time of the first gap. -/
def down {horizon : Nat} :
    (time : Nat) → time ≤ horizon → Table α states.size horizon →
      Except Nat (Table α states.size horizon)
  | 0, _, table => .ok table
  | time + 1, hbound, table =>
      match choices? value states controls (table.cost.get (Fin.succ ⟨time, hbound⟩)) time with
      | none => .error time
      | some choices =>
          down time (Nat.le_of_succ_le hbound) (table.withStage ⟨time, hbound⟩ choices)

/-- The table of a horizon, or the time of the first gap. -/
def solve (horizon : Nat) : Except Nat (Table α states.size horizon) :=
  match ends? value states horizon with
  | none => .error horizon
  | some costs =>
      down value states controls horizon (Nat.le_refl horizon) (Table.blank.withEnds costs)

/-- The equations of the recursion: terminal costs in the last column, and at every time before it
the choices against the next column. -/
structure IsSolution {horizon : Nat} (table : Table α states.size horizon) : Prop where
  ends : ∃ costs, ends? value states horizon = some costs ∧
    table.cost.get (Fin.last horizon) = costs.map some
  stage : ∀ time : Fin horizon, ∃ choices,
    choices? value states controls (table.cost.get time.succ) time = some choices ∧
      table.cost.get time.castSucc = choices.map (fun choice => some choice.cost) ∧
      table.policy.get time = choices.map (fun choice => some choice.control)

variable {value states controls}

/-! ### Solutions -/

theorem down_cost {horizon time : Nat} {hbound : time ≤ horizon}
    {table final : Table α states.size horizon}
    (hdown : down value states controls time hbound table = .ok final) (later : Nat)
    (hlater : time ≤ later) (hhorizon : later < horizon + 1) :
    final.cost[later] = table.cost[later] := by
  induction time generalizing table with
  | zero =>
      obtain rfl := Except.ok.inj hdown
      rfl
  | succ time ih =>
      rw [down] at hdown
      split at hdown
      · cases hdown
      · rw [ih hdown (Nat.le_of_succ_le hlater)]
        exact Table.cost_withColumns_of_ne _ _ _ _ (Nat.ne_of_lt hlater) hhorizon

theorem down_policy {horizon time : Nat} {hbound : time ≤ horizon}
    {table final : Table α states.size horizon}
    (hdown : down value states controls time hbound table = .ok final) (later : Nat)
    (hlater : time ≤ later) (hhorizon : later < horizon) :
    final.policy[later] = table.policy[later] := by
  induction time generalizing table with
  | zero =>
      obtain rfl := Except.ok.inj hdown
      rfl
  | succ time ih =>
      rw [down] at hdown
      split at hdown
      · cases hdown
      · rw [ih hdown (Nat.le_of_succ_le hlater)]
        exact Table.policy_withColumns_of_ne _ _ _ _ (Nat.ne_of_lt hlater) hhorizon

/-- What has been filled below a time satisfies the equations of those times. -/
theorem down_stage {horizon time : Nat} {hbound : time ≤ horizon}
    {table final : Table α states.size horizon}
    (hdown : down value states controls time hbound table = .ok final) (earlier : Fin horizon)
    (hearlier : earlier.val < time) :
    ∃ choices, choices? value states controls (final.cost.get earlier.succ) earlier =
        some choices ∧
      final.cost.get earlier.castSucc = choices.map (fun choice => some choice.cost) ∧
      final.policy.get earlier = choices.map (fun choice => some choice.control) := by
  induction time generalizing table with
  | zero => exact absurd hearlier (Nat.not_lt_zero _)
  | succ time ih =>
      rw [down] at hdown
      split at hdown
      · cases hdown
      · next choices hchoices =>
          by_cases hequal : earlier.val = time
          · subst hequal
            have hnext : final.cost.get earlier.succ = table.cost.get earlier.succ :=
              (down_cost hdown (earlier + 1) (Nat.le_succ _) earlier.succ.isLt).trans
                (table.get_cost_withColumns_succ earlier _ _)
            have hcost := down_cost hdown earlier (Nat.le_refl _) earlier.castSucc.isLt
            have hpolicy := down_policy hdown earlier (Nat.le_refl _) earlier.isLt
            refine ⟨choices, ?_, ?_, ?_⟩
            · rw [hnext]
              exact hchoices
            · exact hcost.trans (Vector.getElem_set_self _)
            · exact hpolicy.trans (Vector.getElem_set_self _)
          · exact ih hdown (by omega)

theorem isSolution_of_solve {horizon : Nat} {table : Table α states.size horizon}
    (hsolve : solve value states controls horizon = .ok table) :
    IsSolution value states controls table := by
  unfold solve at hsolve
  split at hsolve
  · cases hsolve
  · next costs hcosts =>
      refine ⟨⟨costs, hcosts, ?_⟩, fun time => down_stage hsolve time time.isLt⟩
      have hcost := down_cost hsolve horizon (Nat.le_refl _) (Nat.lt_succ_self _)
      exact hcost.trans (Table.get_cost_withEnds_last _ costs)

/-! ### Entries of a solution -/

theorem sum?_eq_some_iff {stage cost : α} {next : Option α} :
    Stage.sum? stage next = some cost ↔
      ∃ later, next = some later ∧ cost = stage + later ∧ Number.isFinite cost = true := by
  cases next with
  | none => simp [Stage.sum?]
  | some later =>
      simp only [Stage.sum?, Option.some.injEq, exists_eq_left']
      constructor
      · intro hsum
        split at hsum
        · next hfinite =>
            obtain rfl := Option.some.inj hsum
            exact ⟨rfl, hfinite⟩
        · cases hsum
      · rintro ⟨rfl, hfinite⟩
        rw [if_pos hfinite]

/-- A control with a cost has a successor and a stage cost, and the next cost-to-go is known. -/
theorem candidate?_eq_some_iff {next : Column α states.size} {time : Int} {state control cost : α} :
    candidate? value states next time state control = some cost ↔
      ∃ successor stage later, value .dynamics state (some control) time = some successor ∧
        value .stageCost state (some control) time = some stage ∧
        next.get (states.nearestIndex successor) = some later ∧ cost = stage + later ∧
        Number.isFinite cost = true := by
  simp only [candidate?, Option.bind_eq_bind, Option.bind_eq_some_iff, sum?_eq_some_iff]
  constructor
  · rintro ⟨successor, hdynamics, stage, hstage, later, hlater, hcost⟩
    exact ⟨successor, stage, later, hdynamics, hstage, hlater, hcost⟩
  · rintro ⟨successor, stage, later, hdynamics, hstage, hlater, hcost⟩
    exact ⟨successor, hdynamics, stage, hstage, later, hlater, hcost⟩

/-- The choice of a state is the first of the cheapest controls, all of which have costs. -/
theorem choice?_eq_some {next : Column α states.size} {time : Int} {state : α} {choice : Choice α}
    (hchoice : choice? value states controls next time state = some choice) :
    ∃ costs : Vector α controls.size,
      (∀ index : Fin controls.size,
        candidate? value states next time state (controls.point index) =
          some (costs.get index)) ∧
      ∃ best, best = Stage.firstSmallest controls.size_pos costs.get ∧
        choice = ⟨costs.get best, controls.point best⟩ := by
  obtain ⟨costs, hcosts, rfl⟩ := Option.map_eq_some_iff.mp hchoice
  exact ⟨costs, ofFnM_eq_some_iff.mp hcosts, _, rfl, rfl⟩

theorem finite_of_choice? {next : Column α states.size} {time : Int} {state : α}
    {choice : Choice α} (hchoice : choice? value states controls next time state = some choice) :
    Number.isFinite choice.cost = true ∧ Number.isFinite choice.control = true := by
  obtain ⟨costs, hcosts, best, _, rfl⟩ := choice?_eq_some hchoice
  obtain ⟨_, _, _, _, _, _, _, hfinite⟩ := candidate?_eq_some_iff.mp (hcosts best)
  exact ⟨hfinite, controls.finite best best.isLt⟩

/-- The stored control of a state has the stored cost. -/
theorem IsSolution.stored {horizon : Nat} {table : Table α states.size horizon}
    (hsolution : IsSolution value states controls table) (time : Fin horizon)
    (state : Fin states.size) :
    ∃ control cost, (table.policy.get time).get state = some control ∧
      (table.cost.get time.castSucc).get state = some cost ∧
      candidate? value states (table.cost.get time.succ) time (states.point state) control =
        some cost := by
  obtain ⟨choices, hchoices, hcost, hpolicy⟩ := hsolution.stage time
  obtain ⟨costs, hcosts, best, _, hchoice⟩ :=
    choice?_eq_some (ofFnM_eq_some_iff.mp hchoices state)
  refine ⟨controls.point best, costs.get best, ?_, ?_, hcosts best⟩
  · rw [hpolicy, get_map, hchoice]
  · rw [hcost, get_map, hchoice]

/-- The last column of a solution holds the terminal costs. -/
theorem IsSolution.last {horizon : Nat} {table : Table α states.size horizon}
    (hsolution : IsSolution value states controls table) (state : Fin states.size) :
    ∃ cost, (table.cost.get (Fin.last horizon)).get state = some cost ∧
      value .terminalCost (states.point state) none horizon = some cost := by
  obtain ⟨costs, hcosts, hcolumn⟩ := hsolution.ends
  exact ⟨costs.get state, by rw [hcolumn, get_map], ofFnM_eq_some_iff.mp hcosts state⟩

/-- A solution has no gap, provided that the terminal costs are finite. -/
theorem IsSolution.isComplete {horizon : Nat} {table : Table α states.size horizon}
    (hsolution : IsSolution value states controls table)
    (hfinite : ∀ state cost, value .terminalCost state none horizon = some cost →
      Number.isFinite cost = true) : table.isComplete = true := by
  rw [Table.isComplete_iff]
  constructor
  · intro time htime state hstate
    by_cases hequal : time = horizon
    · subst hequal
      obtain ⟨costs, hcosts, hcolumn⟩ := hsolution.ends
      have hcost := hfinite _ _ (ofFnM_eq_some_iff.mp hcosts ⟨state, hstate⟩)
      rw [show table.cost[time] = _ from hcolumn, Vector.getElem_map]
      exact hcost
    · obtain ⟨choices, hchoices, hcolumn, _⟩ := hsolution.stage ⟨time, by omega⟩
      have hchoice := finite_of_choice? (ofFnM_eq_some_iff.mp hchoices ⟨state, hstate⟩)
      rw [show table.cost[time] = _ from hcolumn, Vector.getElem_map]
      exact hchoice.1
  · intro time htime state hstate
    obtain ⟨choices, hchoices, _, hcolumn⟩ := hsolution.stage ⟨time, htime⟩
    have hchoice := finite_of_choice? (ofFnM_eq_some_iff.mp hchoices ⟨state, hstate⟩)
    rw [show table.policy[time] = _ from hcolumn, Vector.getElem_map]
    exact hchoice.2

end Recursion

end BellmanGrid
