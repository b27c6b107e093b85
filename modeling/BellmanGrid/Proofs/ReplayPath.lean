import BellmanGrid.Proofs.ClosedFormOptimality
import BellmanGrid.Proofs.ReplayOnGrid
import BellmanGrid.Proofs.UncaughtErrors

/-!
What a replay of a complete table ends with.

A replay visits one state after the other: at each of them it takes the control stored for the
nearest grid point and goes on with what the dynamics hand back.  It ends where the dynamics fail,
or at the end of the horizon.  The table matters only through the cells that are looked up on the
way.
-/

namespace BellmanGrid

variable {α : Type}

namespace Table

variable {states horizon : Nat}

theorem controlAt_of_lt (table : Table α states horizon) (state : Fin states) {time : Nat}
    (htime : time < horizon) :
    table.controlAt state time = .ok ((table.policy.get ⟨time, htime⟩).get state) := by
  rw [controlAt, position_of_lt 0 state.isLt, position_of_lt 1 htime]
  rfl

theorem costAt_of_lt (table : Table α states horizon) (state : Fin states) {time : Nat}
    (htime : time < horizon + 1) :
    table.costAt state time = .ok ((table.cost.get ⟨time, htime⟩).get state) := by
  rw [costAt, position_of_lt 0 state.isLt, position_of_lt 1 htime]
  rfl

variable [Number α]

theorem exists_of_isFilled {cell : Option α} (hfilled : isFilled cell = true) :
    ∃ number, cell = some number ∧ Number.isFinite number = true := by
  cases cell with
  | none => cases hfilled
  | some number => exact ⟨number, rfl, hfilled⟩

/-- A complete table has a finite control for every state and time. -/
theorem exists_controlAt {table : Table α states horizon} (hcomplete : table.isComplete = true)
    (state : Fin states) {time : Nat} (htime : time < horizon) :
    ∃ control, table.controlAt state time = .ok (some control) ∧
      Number.isFinite control = true := by
  obtain ⟨control, hcontrol, hfinite⟩ :=
    exists_of_isFilled ((table.isComplete_iff.mp hcomplete).2 time htime state state.isLt)
  exact ⟨control, (table.controlAt_of_lt state htime).trans (congrArg Except.ok hcontrol), hfinite⟩

/-- The cell of a cost in a complete table is filled. -/
theorem exists_get_cost {table : Table α states horizon} (hcomplete : table.isComplete = true)
    (time : Fin (horizon + 1)) (state : Fin states) :
    ∃ cost, (table.cost.get time).get state = some cost ∧ Number.isFinite cost = true :=
  exists_of_isFilled ((table.isComplete_iff.mp hcomplete).1 time time.isLt state state.isLt)

/-- A complete table has a finite cost for every state and time. -/
theorem exists_costAt {table : Table α states horizon} (hcomplete : table.isComplete = true)
    (state : Fin states) {time : Nat} (htime : time < horizon + 1) :
    ∃ cost, table.costAt state time = .ok (some cost) ∧ Number.isFinite cost = true := by
  obtain ⟨cost, hcost, hfinite⟩ := exists_get_cost hcomplete ⟨time, htime⟩ state
  exact ⟨cost, (table.costAt_of_lt state htime).trans (congrArg Except.ok hcost), hfinite⟩

end Table

namespace Replay

variable [Number α] (replay : Replay α) (initial : α)

/-- The control stored for the grid point nearest to a state. -/
def lookup (state : α) (time : Nat) : Except TableError (Option α) :=
  replay.table.controlAt (replay.states.nearestIndex state) time

/-- The states that a replay visits, each with the number of steps before it. -/
inductive Visits : (time : Nat) → (state : α) → Prop
  | start : Visits 0 initial
  | step {time : Nat} {state control successor : α} (hvisits : Visits time state)
      (hcontrol : replay.lookup state time = .ok (some control))
      (hdynamics : replay.problem.pointResult.finite? .dynamics state (some control) time =
        some successor) : Visits (time + 1) successor

/-- From a time on, controls are the stored ones, and states are what the dynamics hand back. -/
structure IsPath (time : Nat) (visited chosen : List α) : Prop where
  visited_length : visited.length = chosen.length + 1
  ends : time + chosen.length = replay.horizon
  step : ∀ offset < chosen.length, ∃ state control successor,
    visited[offset]? = some state ∧ chosen[offset]? = some control ∧
      visited[offset + 1]? = some successor ∧
      replay.lookup state (time + offset) = .ok (some control) ∧
      replay.problem.pointResult.finite? .dynamics state (some control) (time + offset : Nat) =
        some successor

/-- A replay of the whole horizon, with the cost stored for its start. -/
structure IsReplay (trajectory : Trajectory α) : Prop where
  path : replay.IsPath 0 trajectory.states trajectory.controls
  start : trajectory.states[0]? = some initial
  cost : replay.table.costAt (replay.states.nearestIndex initial) 0 = .ok (some trajectory.cost)
  finite_states : ∀ state ∈ trajectory.states, Number.isFinite state = true
  finite_controls : ∀ control ∈ trajectory.controls, Number.isFinite control = true

/-- The dynamics fail at a state that is visited; at the states before it they went through. -/
def StopsWith (error : ReplayError α) : Prop :=
  ∃ time state control cause, replay.Visits initial time state ∧
    replay.lookup state time = .ok (some control) ∧
    replay.problem.evaluate .dynamics state (some control) time = .error cause ∧
    replay.problem.FailsAt .dynamics state (some control) time cause ∧ error = .evaluation cause

/-- Another table has the same cells where a replay looks them up. -/
structure LooksUpSame (other : Table α replay.states.size replay.horizon) : Prop where
  controls : ∀ time state, replay.Visits initial time state → time < replay.horizon →
    other.controlAt (replay.states.nearestIndex state) time = replay.lookup state time
  cost : other.costAt (replay.states.nearestIndex initial) 0 =
    replay.table.costAt (replay.states.nearestIndex initial) 0

variable {replay initial}

theorem lookup_of_lt {time : Nat} (htime : time < replay.horizon) (state : α) :
    replay.lookup state time =
      .ok ((replay.table.policy.get ⟨time, htime⟩).get (replay.states.nearestIndex state)) :=
  replay.table.controlAt_of_lt _ htime

theorem lt_of_lookup {time : Nat} {state control : α}
    (hcontrol : replay.lookup state time = .ok (some control)) : time < replay.horizon := by
  by_contra hpast
  have hfront : ¬ (time : Int) < 0 := by omega
  have hrange : ¬ (0 ≤ (time : Int) ∧ (time : Int) < replay.horizon) := by omega
  rw [lookup, Table.controlAt, position_of_lt 0 (Fin.isLt _)] at hcontrol
  simp only [position, if_neg hfront, dif_neg hrange] at hcontrol
  cases hcontrol

theorem ofTable_self : ofTable replay.problem replay.states replay.table = .ok replay := by
  rw [ofTable, dif_pos rfl]
  exact dif_pos replay.complete

/-! ### One step -/

/-- A step of a run: the dynamics at the stored control, and the run from what they hand back. -/
theorem follow_cons {problem : Problem α} {states : Grid α}
    {column : Vector (Option α) states.size} {rest : List (Vector (Option α) states.size)}
    {time : Nat} {state control : α}
    (hcontrol : column.get (states.nearestIndex state) = some control) :
    follow problem states (column :: rest) time state =
      ((problem.evaluate .dynamics state (some control) time).mapError .evaluation).bind
        fun successor => (follow problem states rest (time + 1) successor).map
          fun lists => (state :: lists.1, control :: lists.2) := by
  rw [follow, hcontrol]
  show (problem.evaluate .dynamics state (some control) time).mapError _ >>= _ = _
  cases problem.evaluate .dynamics state (some control) time with
  | error cause => rfl
  | ok successor =>
      show (follow problem states rest (time + 1) successor >>= _) = Except.map _ _
      cases follow problem states rest (time + 1) successor <;> rfl

/-- At each time one state is visited at most. -/
theorem Visits.unique {time : Nat} {first second : α} (hfirst : replay.Visits initial time first)
    (hsecond : replay.Visits initial time second) : first = second := by
  induction hfirst generalizing second with
  | start =>
      cases hsecond
      rfl
  | step hvisits hcontrol hdynamics ih =>
      cases hsecond with
      | step hvisits' hcontrol' hdynamics' =>
          obtain rfl := ih hvisits'
          obtain rfl := Option.some.inj (Except.ok.inj (hcontrol.symm.trans hcontrol'))
          exact Option.some.inj (hdynamics.symm.trans hdynamics')

theorem isPath_nil {time : Nat} (htime : time = replay.horizon) (state : α) :
    replay.IsPath time [state] [] where
  visited_length := rfl
  ends := htime
  step _ hoffset := absurd hoffset (Nat.not_lt_zero _)

theorem IsPath.cons {time : Nat} {state control successor : α} {visited chosen : List α}
    (hpath : replay.IsPath (time + 1) visited chosen) (hstart : visited[0]? = some successor)
    (hcontrol : replay.lookup state time = .ok (some control))
    (hdynamics : replay.problem.pointResult.finite? .dynamics state (some control) time =
      some successor) :
    replay.IsPath time (state :: visited) (control :: chosen) where
  visited_length := congrArg Nat.succ hpath.visited_length
  ends := by
    rw [List.length_cons, ← hpath.ends]
    omega
  step offset hoffset := by
    cases offset with
    | zero => exact ⟨state, control, successor, rfl, rfl, hstart, hcontrol, hdynamics⟩
    | succ offset =>
        have hshift : time + (offset + 1) = time + 1 + offset := by omega
        rw [hshift]
        exact hpath.step offset (Nat.lt_of_succ_lt_succ hoffset)

theorem drop_toList_self {β : Type} {count : Nat} (entries : Vector β count) :
    entries.toList.drop count = [] :=
  List.drop_eq_nil_of_le (Nat.le_of_eq Vector.length_toList)

/-! ### Runs -/

/-- A run from a visited state on ends on a path of finite numbers, or where the dynamics fail. -/
theorem follow_ensures [LawfulConversion α] (steps : Nat) {time : Nat} {state : α}
    (hsteps : time + steps = replay.horizon) (hvisits : replay.Visits initial time state)
    (hfinite : Number.isFinite state = true) :
    Ensures (fun lists : List α × List α => replay.IsPath time lists.1 lists.2 ∧
        lists.1[0]? = some state ∧ (∀ found ∈ lists.1, Number.isFinite found = true) ∧
        ∀ control ∈ lists.2, Number.isFinite control = true)
      (replay.StopsWith initial)
      (follow replay.problem replay.states (replay.table.policy.toList.drop time) time state) := by
  induction steps generalizing time state with
  | zero =>
      obtain rfl : time = replay.horizon := hsteps
      rw [drop_toList_self]
      exact ⟨isPath_nil rfl state, rfl, List.forall_mem_singleton.mpr hfinite,
        fun _ hmem => absurd hmem List.not_mem_nil⟩
  | succ steps ih =>
      have htime : time < replay.horizon := by omega
      obtain ⟨control, hcontrol, hcontrolFinite⟩ :=
        Table.exists_controlAt replay.complete (replay.states.nearestIndex state) htime
      have hcell := Except.ok.inj ((lookup_of_lt htime state).symm.trans hcontrol)
      rw [drop_toList replay.table.policy htime, follow_cons hcell]
      have houtcome := replay.problem.evaluate_ensures .dynamics state (some control) time
      cases hevaluate : replay.problem.evaluate .dynamics state (some control) time with
      | error cause =>
          rw [hevaluate] at houtcome
          exact ⟨time, state, control, cause, hvisits, hcontrol, hevaluate, houtcome, rfl⟩
      | ok successor =>
          rw [hevaluate] at houtcome
          have hdynamics := (replay.problem.evaluate_eq_ok_iff _ _ _ _ _).mp hevaluate
          apply (ih (by omega : time + 1 + steps = replay.horizon)
            (.step hvisits hcontrol hdynamics) houtcome).map
          rintro ⟨visited, chosen⟩ ⟨hpath, hstart, hvisited, hchosen⟩
          exact ⟨hpath.cons hstart hcontrol hdynamics, rfl,
            List.forall_mem_cons.mpr ⟨hfinite, hvisited⟩,
            List.forall_mem_cons.mpr ⟨hcontrolFinite, hchosen⟩⟩

/-- Two tables with the same cells on the way have the same runs. -/
theorem follow_eq_of_looksUpSame {other : Table α replay.states.size replay.horizon}
    (hsame : replay.LooksUpSame initial other) (steps : Nat) {time : Nat} {state : α}
    (hsteps : time + steps = replay.horizon) (hvisits : replay.Visits initial time state) :
    follow replay.problem replay.states (other.policy.toList.drop time) time state =
      follow replay.problem replay.states (replay.table.policy.toList.drop time) time state := by
  induction steps generalizing time state with
  | zero =>
      obtain rfl : time = replay.horizon := hsteps
      rw [drop_toList_self, drop_toList_self]
  | succ steps ih =>
      have htime : time < replay.horizon := by omega
      have hcontrol := hsame.controls time state hvisits htime
      rw [other.controlAt_of_lt _ htime, lookup_of_lt htime, Except.ok.injEq] at hcontrol
      obtain ⟨control, hstored, _⟩ :=
        Table.exists_controlAt replay.complete (replay.states.nearestIndex state) htime
      have hcell := Except.ok.inj ((lookup_of_lt htime state).symm.trans hstored)
      rw [drop_toList other.policy htime, drop_toList replay.table.policy htime, follow_cons hcell,
        follow_cons (hcontrol.trans hcell)]
      cases hevaluate : replay.problem.evaluate .dynamics state (some control) time with
      | error cause => rfl
      | ok successor =>
          have hdynamics := (replay.problem.evaluate_eq_ok_iff _ _ _ _ _).mp hevaluate
          have hrest := ih (by omega : time + 1 + steps = replay.horizon)
            (.step hvisits hstored hdynamics)
          exact congrArg (Except.map _) hrest

/-- Along a path from the initial state every visited state stands at its time. -/
theorem Visits.getElem? {visited chosen : List α} (hpath : replay.IsPath 0 visited chosen)
    (hstart : visited[0]? = some initial) {time : Nat} {state : α}
    (hvisits : replay.Visits initial time state) (htime : time ≤ replay.horizon) :
    visited[time]? = some state := by
  induction hvisits with
  | start => exact hstart
  | @step time state control successor _ hcontrol hdynamics ih =>
      have hlength := hpath.ends
      obtain ⟨found, chosen, next, hfound, _, hnext, hlookup, hresult⟩ :=
        hpath.step time (by omega)
      obtain rfl := Option.some.inj ((ih (Nat.le_of_succ_le htime)).symm.trans hfound)
      rw [Nat.zero_add] at hlookup hresult
      obtain rfl := Option.some.inj (Except.ok.inj (hcontrol.symm.trans hlookup))
      rw [hnext, ← hresult, hdynamics]

/-- A replay ends with a trajectory, or where the dynamics fail. -/
theorem simulate_ensures [LawfulConversion α] (hinitial : Number.isFinite initial = true) :
    Ensures (replay.IsReplay initial) (replay.StopsWith initial) (replay.simulate initial) := by
  obtain ⟨cost, hcost, _⟩ := Table.exists_costAt replay.complete
    (replay.states.nearestIndex initial) (Nat.succ_pos replay.horizon)
  have hcell := Except.ok.inj ((replay.table.costAt_of_lt _ (Nat.succ_pos _)).symm.trans hcost)
  apply (follow_ensures replay.horizon (Nat.zero_add _) .start hinitial).bind
  rintro ⟨visited, chosen⟩ ⟨hpath, hstart, hvisited, hchosen⟩
  simp only [hcell]
  exact ⟨hpath, hstart, hcost, hvisited, hchosen⟩

/-- On a whole replay the dynamics have a finite result at every state that is visited. -/
theorem IsReplay.exists_dynamics {trajectory : Trajectory α}
    (hreplay : replay.IsReplay initial trajectory) {time : Nat} {state control : α}
    (hvisits : replay.Visits initial time state)
    (hcontrol : replay.lookup state time = .ok (some control)) (htime : time < replay.horizon) :
    ∃ successor, replay.problem.pointResult.finite? .dynamics state (some control) time =
      some successor := by
  have hends := hreplay.path.ends
  obtain ⟨found, stored, successor, hfound, _, _, hlookup, hdynamics⟩ :=
    hreplay.path.step time (by omega)
  rw [Nat.zero_add] at hlookup hdynamics
  have hstate := hvisits.getElem? hreplay.path hreplay.start (Nat.le_of_lt htime)
  obtain rfl := Option.some.inj (hstate.symm.trans hfound)
  obtain rfl := Option.some.inj (Except.ok.inj (hcontrol.symm.trans hlookup))
  exact ⟨successor, hdynamics⟩

/-- Where the dynamics have a finite result at every state that is visited, nothing stops a
replay. -/
theorem not_stopsWith {error : ReplayError α}
    (hdynamics : ∀ time state control, replay.Visits initial time state →
      replay.lookup state time = .ok (some control) →
        ∃ successor, replay.problem.pointResult.finite? .dynamics state (some control) time =
          some successor) : ¬ replay.StopsWith initial error := by
  rintro ⟨time, state, control, cause, hvisits, hcontrol, hevaluate, _, _⟩
  obtain ⟨successor, hsuccessor⟩ := hdynamics time state control hvisits hcontrol
  rw [(replay.problem.evaluate_eq_ok_iff _ _ _ _ _).mpr hsuccessor] at hevaluate
  cases hevaluate

theorem simulate_eq_of_looksUpSame {other : Table α replay.states.size replay.horizon}
    (hcomplete : other.isComplete = true) (hsame : replay.LooksUpSame initial other) :
    simulate { replay with table := other, complete := hcomplete } initial =
      replay.simulate initial := by
  have hfollow := follow_eq_of_looksUpSame hsame replay.horizon (Nat.zero_add _) .start
  have hcost := hsame.cost
  rw [← Int.natCast_zero, Table.costAt_of_lt _ _ (Nat.succ_pos _),
    Table.costAt_of_lt _ _ (Nat.succ_pos _), Except.ok.injEq] at hcost
  rw [List.drop_zero, List.drop_zero] at hfollow
  rw [simulate, simulate]
  simp only [hfollow, hcost]

/-- Dynamics whose reply at the first state ends the evaluation with an error of its own end a
replay there. -/
theorem simulate_of_escapes {control : α} {error : EvaluationError α}
    (hcontrol : replay.lookup initial 0 = .ok (some control))
    (hescapes : (replay.problem.dynamics initial control 0).Escapes Value.EscapesAtPoint error) :
    replay.simulate initial = .error (.evaluation error) := by
  have htime := lt_of_lookup hcontrol
  have hcell := Except.ok.inj ((lookup_of_lt htime initial).symm.trans hcontrol)
  have hstart : IsWritableTime 0 := by decide +kernel
  have hevaluate : replay.problem.evaluate .dynamics initial (some control) (0 : Nat) =
      .error error :=
    Problem.evaluate_of_escapes hstart hescapes
  have hfollow : follow replay.problem replay.states replay.table.policy.toList 0 initial =
      .error (.evaluation error) := by
    rw [← List.drop_zero (l := replay.table.policy.toList), drop_toList replay.table.policy htime,
      follow_cons hcell, hevaluate]
    rfl
  rw [simulate, hfollow]
  rfl

/-- A replay looks up cells of the table only, and all of them hold numbers.  It succeeds just when
the dynamics have a finite result wherever they are called, and then it has the stored controls, the
states that follow from them and the stored cost.  Otherwise it ends with the failure of the
dynamics at the first state where they fail; this is one of the callback unless it handed back a
value that escapes the checks or raised an exception that cannot be written, or the time is too long
to be written.  Another table with the same cells on the way ends the same. -/
theorem simulate_outcome [LawfulConversion α] (replay : Replay α) {initial : α}
    (hinitial : Number.isFinite initial = true) :
    ofTable replay.problem replay.states replay.table = .ok replay ∧
    (∀ time state, replay.Visits initial time state → time < replay.horizon →
      ∃ control, replay.lookup state time = .ok (some control)) ∧
    (∃ cost, replay.table.costAt (replay.states.nearestIndex initial) 0 = .ok (some cost)) ∧
    ((∃ trajectory, replay.simulate initial = .ok trajectory) ↔
      ∀ time state control, replay.Visits initial time state →
        replay.lookup state time = .ok (some control) →
          ∃ successor, replay.problem.pointResult.finite? .dynamics state (some control) time =
            some successor) ∧
    Ensures (replay.IsReplay initial) (replay.StopsWith initial) (replay.simulate initial) ∧
    ∀ (other : Table α replay.states.size replay.horizon) (hcomplete : other.isComplete = true),
      replay.LooksUpSame initial other →
        simulate { replay with table := other, complete := hcomplete } initial =
          replay.simulate initial := by
  have hensures : Ensures (replay.IsReplay initial) (replay.StopsWith initial)
      (replay.simulate initial) := simulate_ensures hinitial
  refine ⟨ofTable_self, ?_, ?_, ⟨?_, ?_⟩, hensures, fun _ => simulate_eq_of_looksUpSame⟩
  · intro time state _ htime
    obtain ⟨control, hcontrol, _⟩ := Table.exists_controlAt replay.complete _ htime
    exact ⟨control, hcontrol⟩
  · obtain ⟨cost, hcost, _⟩ := Table.exists_costAt replay.complete _ (Nat.succ_pos _)
    exact ⟨cost, hcost⟩
  · rintro ⟨trajectory, hsimulate⟩ time state control hvisits hcontrol
    exact (hensures.good_of_ok hsimulate).exists_dynamics hvisits hcontrol (lt_of_lookup hcontrol)
  · intro hdynamics
    cases hsimulate : replay.simulate initial with
    | ok trajectory => exact ⟨trajectory, rfl⟩
    | error error => exact absurd (hensures.admitted_of_error hsimulate) (not_stopsWith hdynamics)

end Replay

/-! ### Dynamics whose replies escape the checks -/

namespace Tracking

/-- A replay of one step from a table of zeros. -/
def level (problem : Problem Float) : Replay Float where
  problem := problem
  states := grid
  horizon := 1
  table :=
    ⟨.replicate 2 (.replicate 3 (some (Number.ofInt 0))),
      .replicate 1 (.replicate 3 (some (Number.ofInt 0))), true⟩
  complete := by decide +kernel

/-- The tracking problem with dynamics that reply the same everywhere. -/
def stuck (reply : Reply Float) : Problem Float :=
  { (system Float).problem false with
    dynamics := fun _ _ _ => reply }

end Tracking

namespace Replay

/-- The tracking problem: a replay of one step goes through. -/
theorem tracking_simulate_outcome :
    ∃ trajectory, (Tracking.level ((Tracking.system Float).problem false)).simulate
        (Number.ofInt 1) = .ok trajectory ∧
      (Tracking.level ((Tracking.system Float).problem false)).IsReplay (Number.ofInt 1)
        trajectory := by
  have hinitial : Number.isFinite (Number.ofInt 1 : Float) = true := by decide +kernel
  have hsome : ((Tracking.level ((Tracking.system Float).problem false)).simulate
      (Number.ofInt 1)).toOption.isSome = true := by
    decide +kernel
  obtain ⟨trajectory, htrajectory⟩ := Option.isSome_iff_exists.mp hsome
  rw [toOption_eq_some_iff] at htrajectory
  obtain ⟨_, _, _, _, hensures, _⟩ :=
    simulate_outcome (Tracking.level ((Tracking.system Float).problem false)) hinitial
  exact ⟨trajectory, htrajectory, hensures.good_of_ok htrajectory⟩

/-- Dynamics that hand back an integer beyond the largest double end a replay without a report of
the callback, and so do a list with an integer too long to be written and an exception that cannot
be written. -/
theorem exists_uncaught_steps :
    (Tracking.level (Tracking.stuck (.other (.integer (10 ^ 400))))).simulate (Number.ofInt 0) =
        .error (.evaluation (.uncaught (.entry .tooLarge))) ∧
      (Tracking.level (Tracking.stuck (.other (.list [.integer (10 ^ 4300)])))).simulate
          (Number.ofInt 0) =
        .error (.evaluation (.uncaught (.entry .unwritable))) ∧
      (Tracking.level (Tracking.stuck (.raised Tracking.tooLong))).simulate (Number.ofInt 0) =
        .error (.evaluation (.unwritten (.ofError ConversionError.unwritable))) := by
  have hlarge : integerLimit ≤ (10 ^ 400 : Int).natAbs := by decide +kernel
  have hlong : (Value.list [.integer (10 ^ 4300)]).isWritable = false := by decide +kernel
  have hother : ∀ number, Value.list [.integer (10 ^ 4300)] ≠ .integer number := by
    intro number hequal
    cases hequal
  have hcontrol : ∀ reply, (Tracking.level (Tracking.stuck reply)).lookup (Number.ofInt 0) 0 =
      .ok (some (Number.ofInt 0)) := by
    intro reply
    exact (lookup_of_lt Nat.one_pos _).trans (congrArg Except.ok (Vector.getElem_replicate _))
  exact ⟨simulate_of_escapes (hcontrol _) (.value (.tooLarge hlarge)),
    simulate_of_escapes (hcontrol _) (.value (.unwritable hother hlong)),
    simulate_of_escapes (hcontrol _) (.exception _ _)⟩

end Replay

end BellmanGrid
