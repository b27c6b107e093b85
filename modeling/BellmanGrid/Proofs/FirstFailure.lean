import BellmanGrid.Proofs.CheckOrder
import BellmanGrid.Proofs.ModeAgreement

/-!
The failure that stops a solve point by point.

A solve gets as far as the first of its checks that fails, and reports the callback, the point and
the reason of that check, unless the reason is an exception that cannot be written.  Whether a check
fails depends on costs-to-go that earlier checks let through, and on nothing behind it: problems
whose callbacks reply alike up to a check have the same costs-to-go there.
-/

namespace BellmanGrid

variable {α : Type} [Number α]

namespace Recursion

variable {value other : Role → (state : α) → (control : Option α) → (time : Int) → Option α}
variable {states controls : Grid α} {horizon : Nat}

/-- Costs-to-go some steps before the end come from costs-to-go and choices of every later time. -/
theorem exists_choices?_of_costs? {steps fewer : Nat} {costs : Vector α states.size}
    (hcosts : costs? value states controls horizon steps = some costs) (hfewer : fewer < steps) :
    ∃ next choices, costs? value states controls horizon fewer = some next ∧
      choices? value states controls (next.map some) (horizon - (fewer + 1) : Nat) =
        some choices := by
  induction steps generalizing costs with
  | zero => exact absurd hfewer (Nat.not_lt_zero fewer)
  | succ steps ih =>
      simp only [costs?, Option.bind_eq_bind, Option.bind_eq_some_iff] at hcosts
      obtain ⟨next, hnext, choices, hchoices, _⟩ := hcosts
      rcases Nat.lt_succ_iff_lt_or_eq.mp hfewer with hlt | rfl
      · exact ih hnext hlt
      · exact ⟨next, choices, hnext, hchoices⟩

theorem exists_ends?_of_costs? {steps : Nat} {costs : Vector α states.size}
    (hcosts : costs? value states controls horizon steps = some costs) :
    ∃ ends, ends? value states horizon = some ends := by
  cases steps with
  | zero => exact ⟨costs, hcosts⟩
  | succ steps =>
      obtain ⟨ends, _, hends, _⟩ := exists_choices?_of_costs? hcosts (Nat.zero_lt_succ steps)
      exact ⟨ends, hends⟩

/-- The columns of a solution are the costs-to-go. -/
theorem IsSolution.exists_costs? {table : Table α states.size horizon}
    (hsolution : IsSolution value states controls table) {steps time : Nat}
    (htime : time < horizon + 1) (hsteps : time + steps = horizon) :
    ∃ costs, costs? value states controls horizon steps = some costs ∧
      table.cost.get ⟨time, htime⟩ = costs.map some := by
  induction steps generalizing time with
  | zero =>
      obtain rfl : time = horizon := hsteps
      exact hsolution.ends
  | succ steps ih =>
      have hstage : time < horizon := by omega
      obtain ⟨next, hnext, hcolumn⟩ := ih (Nat.succ_lt_succ hstage)
        (by omega : time + 1 + steps = horizon)
      obtain ⟨choices, hchoices, hcost, _⟩ := hsolution.stage ⟨time, hstage⟩
      have hcolumnNext : table.cost.get (Fin.succ ⟨time, hstage⟩) = next.map some := hcolumn
      have hback : horizon - (steps + 1) = time := by omega
      rw [hcolumnNext] at hchoices
      refine ⟨choices.map Choice.cost, ?_, ?_⟩
      · simp only [costs?, hnext, hback, Option.bind_eq_bind, Option.bind_some, hchoices,
          Option.pure_def]
      · rw [Vector.map_map]
        exact hcost

theorem choices?_congr {next : Column α states.size} {time : Int}
    (hdynamics : ∀ state control, value .dynamics (states.point state)
        (some (controls.point control)) time =
      other .dynamics (states.point state) (some (controls.point control)) time)
    (hstage : ∀ state control, value .stageCost (states.point state)
        (some (controls.point control)) time =
      other .stageCost (states.point state) (some (controls.point control)) time) :
    choices? value states controls next time = choices? other states controls next time := by
  simp only [choices?, choice?, candidate?, hdynamics, hstage]

/-- Costs-to-go depend on the terminal costs and on the times from theirs on. -/
theorem costs?_congr {steps : Nat} (hsteps : steps ≤ horizon)
    (hends : ∀ state, value .terminalCost (states.point state) none horizon =
      other .terminalCost (states.point state) none horizon)
    (hpairs : ∀ time : Nat, horizon - steps ≤ time → time < horizon → ∀ state control,
      value .dynamics (states.point state) (some (controls.point control)) time =
          other .dynamics (states.point state) (some (controls.point control)) time ∧
        value .stageCost (states.point state) (some (controls.point control)) time =
          other .stageCost (states.point state) (some (controls.point control)) time) :
    costs? value states controls horizon steps = costs? other states controls horizon steps := by
  induction steps with
  | zero => simp only [costs?, ends?, hends]
  | succ steps ih =>
      have hlater := ih (Nat.le_of_succ_le hsteps) fun time htime =>
        hpairs time (by omega)
      have hstep := hpairs (horizon - (steps + 1)) (Nat.le_refl _) (by omega)
      simp only [costs?, hlater, choices?_congr (fun state control => (hstep state control).1)
        (fun state control => (hstep state control).2)]

end Recursion

/-! ### Problems that reply alike -/

/-- Two problems reply alike where a check calls them; a sum calls nothing. -/
def SweepCheck.SameReply (first second : Problem α) (states controls : Grid α) {horizon : Nat} :
    SweepCheck states.size controls.size horizon → Prop
  | ends state => first.terminalCost (states.point state) horizon =
      second.terminalCost (states.point state) horizon
  | stage time ⟨state, control, .dynamics⟩ =>
      first.dynamics (states.point state) (controls.point control) time =
        second.dynamics (states.point state) (controls.point control) time
  | stage time ⟨state, control, .stageCost⟩ =>
      first.stageCost (states.point state) (controls.point control) time =
        second.stageCost (states.point state) (controls.point control) time
  | stage _ ⟨_, _, .sum⟩ => True

namespace Problem

/-- Two problems reply alike up to a check and at it. -/
def RepliesAlikeUpTo (first second : Problem α) (states controls : Grid α) {horizon : Nat}
    (last : SweepCheck states.size controls.size horizon) : Prop :=
  ∀ check : SweepCheck states.size controls.size horizon, check = last ∨ check.Before last →
    check.SameReply first second states controls

variable {first second : Problem α} {states controls : Grid α} {horizon : Nat}

theorem finite?_congr {role : Role} {state : α} {control : Option α} {time : Int}
    (hreply : first.callAt role state control time = second.callAt role state control time) :
    first.pointResult.finite? role state control time =
      second.pointResult.finite? role state control time := by
  simp only [PointResult.finite?, pointResult, hreply]

/-- The checks up to one fail alike, and for the same reasons. -/
theorem reason?_congr {last : SweepCheck states.size controls.size horizon}
    (halike : first.RepliesAlikeUpTo second states controls last)
    {check : SweepCheck states.size controls.size horizon}
    (hcheck : check = last ∨ check.Before last) :
    first.reason? states controls horizon check = second.reason? states controls horizon check := by
  have hupTo : ∀ {earlier : SweepCheck states.size controls.size horizon}, earlier.Before check →
      earlier.SameReply first second states controls := by
    intro earlier hearlier
    rcases hcheck with rfl | hbefore
    · exact halike earlier (.inr hearlier)
    · exact halike earlier (.inr (hearlier.trans hbefore))
  have hself := halike check hcheck
  rcases check with state | ⟨time, state, control, each⟩
  · have hreply : first.callAt .terminalCost (states.point state) none horizon =
        second.callAt .terminalCost (states.point state) none horizon := hself
    rw [reason?, reason?, hreply]
  · -- All terminal costs and all later times come before the check.
    have hcosts : Recursion.costs? first.pointResult.finite? states controls horizon
        (horizon - (time.val + 1)) =
          Recursion.costs? second.pointResult.finite? states controls horizon
            (horizon - (time.val + 1)) := by
      apply Recursion.costs?_congr (Nat.sub_le _ _)
      · exact fun other => finite?_congr (@hupTo (.ends other) trivial)
      · intro later hlater hhorizon other otherControl
        have hbehind : time < ⟨later, hhorizon⟩ := by
          show time.val < later
          omega
        exact ⟨finite?_congr (@hupTo (.stage ⟨later, hhorizon⟩ ⟨other, otherControl, .dynamics⟩)
            (.inl hbehind)),
          finite?_congr (@hupTo (.stage ⟨later, hhorizon⟩ ⟨other, otherControl, .stageCost⟩)
            (.inl hbehind))⟩
    rw [reason?, reason?, hcosts]
    congr 1
    funext next
    cases each with
    | dynamics => exact congrArg Reply.reason? hself
    | stageCost => exact congrArg Reply.reason? hself
    | sum =>
        have hdynamics : first.dynamics (states.point state) (controls.point control) time =
            second.dynamics (states.point state) (controls.point control) time :=
          @hupTo (.stage time ⟨state, control, .dynamics⟩)
            (.inr ⟨rfl, .inr ⟨rfl, .inr ⟨rfl, Nat.zero_lt_two⟩⟩⟩)
        have hstage : first.stageCost (states.point state) (controls.point control) time =
            second.stageCost (states.point state) (controls.point control) time :=
          @hupTo (.stage time ⟨state, control, .stageCost⟩)
            (.inr ⟨rfl, .inr ⟨rfl, .inr ⟨rfl, Nat.one_lt_two⟩⟩⟩)
        simp only [pairReason?, overflow?, PointResult.finite?, pointResult, callAt, hdynamics,
          hstage]

variable {problem : Problem α} {steps : Nat} {costs : Vector α states.size}

/-- Where costs-to-go are found, no terminal cost is rejected. -/
theorem reason?_ends_of_costs? (hcosts : Recursion.costs? problem.pointResult.finite? states
      controls horizon steps = some costs) (state : Fin states.size) :
    problem.reason? states controls horizon (.ends state) = none := by
  obtain ⟨ends, hends⟩ := Recursion.exists_ends?_of_costs? hcosts
  exact reason?_of_finite (ofFnM_eq_some_iff.mp hends state)

/-- Where costs-to-go are found, no check of their time or a later one fails. -/
theorem reason?_stage_of_costs? (hcosts : Recursion.costs? problem.pointResult.finite? states
      controls horizon steps = some costs) {time : Fin horizon} (htime : horizon - time ≤ steps)
    (place : PairCheck states.size controls.size) :
    problem.reason? states controls horizon (.stage time place) = none := by
  have hlt := time.isLt
  obtain ⟨next, choices, hnext, hchoices⟩ := Recursion.exists_choices?_of_costs? hcosts
    (by omega : horizon - (time.val + 1) < steps)
  have hback : horizon - (horizon - (time.val + 1) + 1) = time := by omega
  rw [hback] at hchoices
  obtain ⟨choice, hchoice⟩ : ∃ choice, Recursion.choice? problem.pointResult.finite? states
      controls (next.map some) time (states.point place.state) = some choice :=
    ⟨_, ofFnM_eq_some_iff.mp hchoices place.state⟩
  rw [reason?, hnext, Option.bind_some]
  exact pairReason?_of_choice? hchoice place.control place.check

end Problem

namespace GridProblem

open Problem

variable {task : GridProblem α} {horizon : Nat}

/-- Terminal costs stop at the first state whose call is rejected. -/
theorem terminalCosts_stops (hscalar : task.problem.vectorized = false)
    (hreplies : task.problem.AnswersOrRaises task.states task.controls horizon)
    (hhorizon : IsWritableTime horizon) {cause : EvaluationError α}
    (hfails : task.terminalCosts horizon = .error cause) :
    ∃ (check : SweepCheck task.states.size task.controls.size horizon)
      (reason : Except Raised (Reason α)),
      .evaluation cause = check.error task.states task.controls reason ∧
      IsFirstReport (task.problem.reason? task.states task.controls horizon) SweepCheck.Before
        check reason := by
  rw [terminalCosts, if_neg (Bool.eq_false_iff.mp hscalar)] at hfails
  obtain ⟨state, hstate, hfound, hbefore⟩ := mapM_eq_error hfails
  rw [Array.length_toList] at hstate
  rw [Array.getElem_toList] at hfound
  obtain ⟨reason, hreason, rfl⟩ :=
    evaluate_stops hreplies hhorizon (.ends (Array.getElem_mem hstate)) hfound
  refine ⟨.ends ⟨state, hstate⟩, reason, rfl, hreason, ?_⟩
  intro other hother
  rcases other with earlier | ⟨time, place⟩
  · obtain ⟨cost, hcost⟩ := hbefore earlier.val hother
    rw [Array.getElem_toList] at hcost
    exact reason?_of_finite ((task.problem.evaluate_eq_ok_iff _ _ _ _ _).mp hcost)
  · exact absurd hother id

/-- A sweep from the terminal costs stops at the first check that fails. -/
theorem sweepDown_stops (hscalar : task.problem.vectorized = false)
    (hreplies : task.problem.AnswersOrRaises task.states task.controls horizon)
    (hhorizon : IsWritableTime horizon) {chunkSize : Nat} (hchunk : 0 < chunkSize)
    {ends : Vector α task.states.size}
    (hends : Recursion.ends? task.problem.pointResult.finite? task.states horizon = some ends)
    {error : SolveError α} (hfails : task.sweepDown chunkSize .sequential horizon
      (Nat.le_refl horizon) (Table.blank.withEnds ends) = .error error) :
    ∃ (check : SweepCheck task.states.size task.controls.size horizon)
      (reason : Except Raised (Reason α)), error = check.error task.states task.controls reason ∧
      IsFirstReport (task.problem.reason? task.states task.controls horizon) SweepCheck.Before
        check reason := by
  obtain ⟨time, next, reached, hnext, hcolumn, htime⟩ := sweepDown_eq_error
    (actsAs_of_scalar hscalar) hchunk (by rw [Nat.sub_self]; exact hends)
    (Vector.getElem_set_self _) hfails
  obtain ⟨place, reason, rfl, hfirst⟩ := sweepTime_stops hscalar hreplies hhorizon hchunk htime
  rw [hcolumn] at hfirst
  have hcosts : Recursion.costs? task.problem.pointResult.finite? task.states task.controls horizon
      (horizon - (time.val + 1)) = some next := hnext
  refine ⟨.stage time place, reason, rfl, ?_, ?_⟩
  · rw [reason?, hcosts, Option.bind_some]
    exact hfirst.reports
  · intro other hother
    rcases other with state | ⟨later, otherPlace⟩
    · exact reason?_ends_of_costs? hcosts state
    · rcases hother with hlater | ⟨rfl, hbefore⟩
      · have hval : time.val < later.val := hlater
        exact reason?_stage_of_costs? hcosts (by omega) otherPlace
      · rw [reason?, hcosts, Option.bind_some]
        exact hfirst.first otherPlace hbefore

/-- A sweep that gets down to time zero leaves no gap. -/
theorem isComplete_of_sweepDown [LawfulConversion α] (hscalar : task.problem.vectorized = false)
    {chunkSize : Nat} (hchunk : 0 < chunkSize) {ends : Vector α task.states.size}
    (hends : Recursion.ends? task.problem.pointResult.finite? task.states horizon = some ends)
    {table : Table α task.states.size horizon}
    (hsweep : task.sweepDown chunkSize .sequential horizon (Nat.le_refl horizon)
      (Table.blank.withEnds ends) = .ok table) :
    table.isComplete = true := by
  have hacts : task.problem.ActsAs task.problem.pointResult := actsAs_of_scalar hscalar
  have hfollows := sweepDown_follows hacts hchunk Schedule.sequential_reorders (Nat.le_refl horizon)
    (Table.blank.withEnds ends)
  cases hdown : Recursion.down task.problem.pointResult.finite? task.states task.controls horizon
      (Nat.le_refl horizon) (Table.blank.withEnds ends) with
  | error time =>
      rw [hdown] at hfollows
      obtain ⟨error, hfails, _⟩ := hfollows
      rw [hsweep] at hfails
      cases hfails
  | ok found =>
      rw [hdown] at hfollows
      obtain rfl : table = found := Except.ok.inj (hsweep.symm.trans hfollows)
      have hrecursion : Recursion.solve task.problem.pointResult.finite? task.states task.controls
          horizon = .ok table := by
        simp only [Recursion.solve, hends, hdown]
      exact (Recursion.isSolution_of_solve hrecursion).isComplete
        fun _ _ hcost => Reply.finite_of_result? hcost

/-- A solve whose size is granted fails only at a check, and at the first one that does. -/
theorem solve_stops [LawfulConversion α] (hscalar : task.problem.vectorized = false)
    (hreplies : task.problem.AnswersOrRaises task.states task.controls horizon)
    {execution : Execution} {size : Nat × Nat}
    (hsize : Table.checkSize task.states.size horizon = .ok size) {error : SolveError α}
    (hfails : task.solve execution horizon = .error error) :
    ∃ (check : SweepCheck task.states.size task.controls.size horizon)
      (reason : Except Raised (Reason α)), error = check.error task.states task.controls reason ∧
      IsFirstReport (task.problem.reason? task.states task.controls horizon) SweepCheck.Before
        check reason := by
  have hhorizon := isWritableTime_of_granted hsize (Nat.le_refl horizon)
  rw [solve, solveScheduled_of_granted hsize] at hfails
  have hacts := actsAs_of_scalar hscalar
  have hagrees := terminalCosts_agrees hacts horizon
  cases hterminal : task.terminalCosts horizon with
  | error cause =>
      simp only [hterminal, Except.mapError, bind, Except.bind, Except.error.injEq] at hfails
      obtain ⟨check, reason, herror, hfirst⟩ :=
        terminalCosts_stops hscalar hreplies hhorizon hterminal
      exact ⟨check, reason, hfails.symm.trans herror, hfirst⟩
  | ok given =>
      obtain ⟨ends, hends, rfl⟩ := Option.map_eq_some_iff.mp ((hagrees.ok_iff given).mp hterminal)
      simp only [hterminal, Table.storeTerminal_blank, Except.mapError, bind, Except.bind] at hfails
      cases hsweep : task.sweepDown execution.chunkSize .sequential horizon (Nat.le_refl horizon)
          (Table.blank.withEnds ends) with
      | error cause =>
          simp only [hsweep, Except.error.injEq] at hfails
          subst hfails
          exact sweepDown_stops hscalar hreplies hhorizon execution.chunkSize_pos hends hsweep
      | ok table =>
          have hcomplete := isComplete_of_sweepDown hscalar execution.chunkSize_pos hends hsweep
          simp only [hsweep, hcomplete, if_true] at hfails
          cases hfails

/-- A solve that succeeds has passed every check. -/
theorem reason?_of_solve (hscalar : task.problem.vectorized = false) {execution : Execution}
    {table : Table α task.states.size horizon} (hsolve : task.solve execution horizon = .ok table)
    (check : SweepCheck task.states.size task.controls.size horizon) :
    task.problem.reason? task.states task.controls horizon check = none := by
  obtain ⟨hsolution, _⟩ := isSolution_of_solve (actsAs_of_scalar hscalar) hsolve
  obtain ⟨costs, hcosts, _⟩ := hsolution.exists_costs? (Nat.succ_pos horizon) (Nat.zero_add horizon)
  rcases check with state | ⟨time, place⟩
  · exact reason?_ends_of_costs? hcosts state
  · exact reason?_stage_of_costs? hcosts (Nat.sub_le _ _) place

/-- The first check that fails is the one that is reported. -/
theorem solve_of_isFirstReport [LawfulConversion α] (hscalar : task.problem.vectorized = false)
    (hreplies : task.problem.AnswersOrRaises task.states task.controls horizon)
    (execution : Execution) {size : Nat × Nat}
    (hsize : Table.checkSize task.states.size horizon = .ok size)
    {check : SweepCheck task.states.size task.controls.size horizon}
    {reason : Except Raised (Reason α)}
    (hfirst : IsFirstReport (task.problem.reason? task.states task.controls horizon)
      SweepCheck.Before check reason) :
    task.solve execution horizon = .error (check.error task.states task.controls reason) := by
  cases hsolve : task.solve execution horizon with
  | ok table =>
      have hnone := reason?_of_solve hscalar hsolve check
      rw [hfirst.reports] at hnone
      cases hnone
  | error error =>
      obtain ⟨found, other, rfl, hfound⟩ := solve_stops hscalar hreplies hsize hsolve
      obtain ⟨rfl, rfl⟩ := hfound.unique SweepCheck.before_trichotomy hfirst
      rfl

/-- A problem that is evaluated point by point, whose callbacks raise or give numbers, is solved
exactly when no check fails.  Otherwise the callback, the point and the reason that are reported are
those of the first check that fails, and they are the same for every problem that replies alike up
to that check.  Where the exception of that check cannot be written, the solve ends with what the
attempt has ended with.  Only a table of a size that is not granted is refused before, and it is
refused to every problem. -/
theorem solve_reports_first_check [LawfulConversion α] {problem : Problem α}
    (hscalar : problem.vectorized = false) {states controls : Grid α} {horizon : Nat}
    (hreplies : problem.AnswersOrRaises states controls horizon) {chunkSize : Nat}
    (hchunk : 0 < chunkSize) :
    (∀ cause, Table.checkSize states.size horizon = .error cause →
      ∀ (other : Problem α) (execution : Execution),
        solve ⟨other, states, controls⟩ execution horizon = .error (.table cause)) ∧
    ((∃ size, Table.checkSize states.size horizon = .ok size) →
      ((∃ error, solve ⟨problem, states, controls⟩ ⟨1, chunkSize, Nat.one_pos, hchunk⟩ horizon =
        .error error) ↔
          ∃ check, (problem.reason? states controls horizon check).isSome = true) ∧
      (∀ error, solve ⟨problem, states, controls⟩ ⟨1, chunkSize, Nat.one_pos, hchunk⟩ horizon =
        .error error ↔ ∃ check reason,
          IsFirstReport (problem.reason? states controls horizon) SweepCheck.Before check reason ∧
          error = check.error states controls reason) ∧
      ∀ check reason,
        IsFirstReport (problem.reason? states controls horizon) SweepCheck.Before check reason →
        ∀ other : Problem α, other.vectorized = false →
          other.AnswersOrRaises states controls horizon →
          problem.RepliesAlikeUpTo other states controls check →
          ∀ {otherSize : Nat} (hother : 0 < otherSize),
            solve ⟨other, states, controls⟩ ⟨1, otherSize, Nat.one_pos, hother⟩ horizon =
              .error (check.error states controls reason)) := by
  refine ⟨fun cause hrefused other execution => solveScheduled_of_refused hrefused, ?_⟩
  rintro ⟨size, hsize⟩
  have hstops : ∀ {error},
      solve ⟨problem, states, controls⟩ ⟨1, chunkSize, Nat.one_pos, hchunk⟩ horizon = .error error →
      ∃ check reason,
        IsFirstReport (problem.reason? states controls horizon) SweepCheck.Before check reason ∧
        error = check.error states controls reason := by
    intro error hfails
    obtain ⟨check, reason, herror, hfirst⟩ :=
      @solve_stops _ _ ⟨problem, states, controls⟩ horizon _ hscalar hreplies _ _ hsize _ hfails
    exact ⟨check, reason, hfirst, herror⟩
  refine ⟨⟨?_, ?_⟩, fun error => ⟨hstops, ?_⟩, ?_⟩
  · rintro ⟨error, hfails⟩
    obtain ⟨check, reason, hfirst, _⟩ := hstops hfails
    exact ⟨check, by rw [hfirst.reports]; rfl⟩
  · rintro ⟨check, hfails⟩
    cases hsolve : solve ⟨problem, states, controls⟩ ⟨1, chunkSize, Nat.one_pos, hchunk⟩
        horizon with
    | error error => exact ⟨error, rfl⟩
    | ok table =>
        have hnone :=
          @reason?_of_solve _ _ ⟨problem, states, controls⟩ horizon hscalar _ _ hsolve check
        rw [hnone] at hfails
        cases hfails
  · rintro ⟨check, reason, hfirst, rfl⟩
    exact @solve_of_isFirstReport _ _ ⟨problem, states, controls⟩ horizon _ hscalar hreplies _ _
      hsize _ _ hfirst
  · intro check reason hfirst other hotherScalar hotherReplies halike otherSize hother
    have hotherFirst : IsFirstReport (other.reason? states controls horizon) SweepCheck.Before check
        reason := by
      refine ⟨(reason?_congr halike (.inl rfl)).symm.trans hfirst.reports, ?_⟩
      intro earlier hearlier
      exact (reason?_congr halike (.inr hearlier)).symm.trans (hfirst.first earlier hearlier)
    exact @solve_of_isFirstReport _ _ ⟨other, states, controls⟩ horizon _ hotherScalar hotherReplies
      _ _ hsize _ _ hotherFirst

/-- The tracking problem with another reply of the dynamics at the first time, and without a stage
cost of the highest control at the second one. -/
def faulty (firstReply : Reply Float) : Problem Float :=
  { (Tracking.system Float).problem false with
    dynamics := fun state control time =>
      if time = 0 then firstReply else .number ((Tracking.system Float).next state control)
    stageCost := fun state control time =>
      if time = 1 ∧ Number.less Number.zero control = true then
        .raised (.written "ValueError" "no stage cost")
      else .number ((Tracking.system Float).stageCost state control) }

theorem faulty_answersOrRaises {firstReply : Reply Float}
    (hfirst : (∃ exception, firstReply = .raised exception) ∨ firstReply.result?.isSome = true)
    (states controls : Grid Float) (horizon : Nat) :
    (faulty firstReply).AnswersOrRaises states controls horizon := by
  intro role state control time _
  rcases role with _ | _ | _ <;> rcases control with _ | control
  · exact .inl ⟨_, rfl⟩
  · simp only [faulty, callAt]
    split
    · exact hfirst
    · exact .inr rfl
  · exact .inl ⟨_, rfl⟩
  · simp only [faulty, callAt]
    split
    · exact .inl ⟨_, rfl⟩
    · exact .inr rfl
  · exact .inr rfl
  · exact .inl ⟨_, rfl⟩

/-- The missing stage cost is reported, whether or not the dynamics raise at the time before it. -/
theorem faulty_reports_first_check :
    ∃ (check : SweepCheck Tracking.grid.size Tracking.grid.size 2) (reason : Reason Float),
      IsFirstReport ((faulty (.raised (.written "KeyError" "no successor"))).reason? Tracking.grid
        Tracking.grid 2) SweepCheck.Before check (.ok reason) ∧
      (check.failure Tracking.grid Tracking.grid reason).role = .stageCost ∧
      (check.failure Tracking.grid Tracking.grid reason).control = some (Number.ofInt 1) ∧
      solve ⟨faulty (.raised (.written "KeyError" "no successor")), Tracking.grid, Tracking.grid⟩
          ⟨1, 2, Nat.one_pos, Nat.two_pos⟩ 2 =
        .error (check.error Tracking.grid Tracking.grid (.ok reason)) ∧
      solve ⟨faulty (.number Number.zero), Tracking.grid, Tracking.grid⟩
          ⟨1, 1, Nat.one_pos, Nat.one_pos⟩ 2 =
        .error (check.error Tracking.grid Tracking.grid (.ok reason)) := by
  have hreport : (SolveError.failure? (solve ⟨faulty (.raised (.written "KeyError" "no successor")),
      Tracking.grid, Tracking.grid⟩ ⟨1, 2, Nat.one_pos, Nat.two_pos⟩ 2)).any (fun failure =>
        decide (failure.time = 1 ∧ failure.role = .stageCost ∧
          failure.control = some (Number.ofInt 1))) = true := by
    decide +kernel
  obtain ⟨failure, hfailure, hmatch⟩ := (Option.any_eq_true _ _).mp hreport
  rw [SolveError.failure?_eq_some_iff] at hfailure
  obtain ⟨htime, hrole, hcontrol⟩ := of_decide_eq_true hmatch
  have hraises := faulty_answersOrRaises (.inl ⟨.written "KeyError" "no successor", rfl⟩)
    Tracking.grid Tracking.grid 2
  obtain ⟨_, hgranted⟩ := solve_reports_first_check rfl hraises Nat.two_pos
  obtain ⟨_, hiff, halike⟩ := hgranted ⟨(3, 2), rfl⟩
  obtain ⟨check, found, hfirst, hequal⟩ := (hiff _).mp hfailure
  cases found with
  | error cause => cases hequal
  | ok reason =>
      obtain rfl : failure = check.failure Tracking.grid Tracking.grid reason :=
        EvaluationError.callback.inj (SolveError.evaluation.inj hequal)
      refine ⟨check, reason, hfirst, hrole, hcontrol, hfailure, ?_⟩
      apply halike check _ hfirst _ rfl (faulty_answersOrRaises (.inr rfl) _ _ _)
      -- The check is one of time one, so the dynamics at time zero are not among those before it.
      intro earlier hearlier
      rcases check with state | ⟨time, place⟩
      · cases htime
      · rcases earlier with other | ⟨otherTime, other, otherControl, each⟩
        · rfl
        · have hone : time.val = 1 := Int.ofNat.inj htime
          have hlater : ¬ (otherTime.val : Int) = 0 := by
            rcases hearlier with hequal | hlt | ⟨rfl, _⟩
            · rw [(SweepCheck.stage.inj hequal).1, hone]
              decide
            · have hval : time.val < otherTime.val := hlt
              omega
            · rw [hone]
              decide
          cases each with
          | dynamics => simp only [SweepCheck.SameReply, faulty, if_neg hlater]
          | stageCost => rfl
          | sum => trivial

/-- The tracking problem with terminal costs that raise an exception. -/
def endless (exception : Raised) : Problem Float :=
  { (Tracking.system Float).problem false with
    terminalCost := fun _ _ => .raised exception }

theorem endless_answersOrRaises (exception : Raised) (states controls : Grid Float)
    (horizon : Nat) : (endless exception).AnswersOrRaises states controls horizon := by
  intro role state control time _
  rcases role with _ | _ | _ <;> rcases control with _ | control
  · exact .inl ⟨_, rfl⟩
  · exact .inr rfl
  · exact .inl ⟨_, rfl⟩
  · exact .inr rfl
  · exact .inl ⟨_, rfl⟩
  · exact .inl ⟨_, rfl⟩

/-- The terminal cost of the first state is the first check that fails. -/
theorem endless_isFirstReport (exception : Raised) (horizon : Nat) :
    IsFirstReport ((endless exception).reason? Tracking.grid Tracking.grid horizon)
      SweepCheck.Before (.ends ⟨0, Tracking.grid.size_pos⟩) exception.reason := by
  refine ⟨rfl, ?_⟩
  rintro (earlier | ⟨time, place⟩) hearlier
  · exact absurd hearlier (Nat.not_lt_zero _)
  · exact absurd hearlier id

/-- No callback is reported although the first check fails: a table that is too big is refused
before, and an exception that cannot be written leaves its place to another one. -/
theorem endless_reports_no_callback :
    (∀ exception, (endless exception).vectorized = false ∧ ∀ horizon,
      (endless exception).AnswersOrRaises Tracking.grid Tracking.grid horizon ∧
      IsFirstReport ((endless exception).reason? Tracking.grid Tracking.grid horizon)
        SweepCheck.Before (.ends ⟨0, Tracking.grid.size_pos⟩) exception.reason) ∧
    (∀ failure, solve ⟨endless (.written "RuntimeError" "no terminal cost"), Tracking.grid,
      Tracking.grid⟩ ⟨1, 1, Nat.one_pos, Nat.one_pos⟩ (2 ^ 60) ≠
        .error (.evaluation (.callback failure))) ∧
    ∀ failure, solve ⟨endless Tracking.tooLong, Tracking.grid, Tracking.grid⟩
      ⟨1, 1, Nat.one_pos, Nat.one_pos⟩ 1 ≠ .error (.evaluation (.callback failure)) := by
  refine ⟨?_, ?_, ?_⟩
  · intro exception
    exact ⟨rfl, fun horizon =>
      ⟨endless_answersOrRaises exception _ _ horizon, endless_isFirstReport exception horizon⟩⟩
  · intro failure hequal
    have hsize : Table.checkSize Tracking.grid.size (2 ^ 60 : Nat) =
        .error (.storage .tooBig) := by
      rfl
    rw [solve, solveScheduled_of_refused hsize] at hequal
    cases hequal
  · intro failure hequal
    have hsize : Table.checkSize Tracking.grid.size (1 : Nat) = .ok (3, 1) := by rfl
    rw [@solve_of_isFirstReport _ _ ⟨endless Tracking.tooLong, Tracking.grid, Tracking.grid⟩ _ _ rfl
      (endless_answersOrRaises Tracking.tooLong _ _ 1) _ _ hsize _ _
      (endless_isFirstReport Tracking.tooLong 1)] at hequal
    cases hequal

end GridProblem

end BellmanGrid
