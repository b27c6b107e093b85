import BellmanGrid.Proofs.FirstOffence

/-!
The checks of a solve point by point, in the order in which they are made.

The terminal costs come first, state by state.  Then come the times from the last one down, and at a
time the states, the controls of a state, and of a control the successor, the stage cost and their
sum with the next cost-to-go.  The blocks of the states are no part of this order.  A callback may
raise or give a number, and the reason of a rejected call is read off its reply.  An exception that
cannot be written is no reason: the check that meets it ends with what the attempt to write it has
ended with.
-/

namespace BellmanGrid

/-! ### The order -/

namespace PairCheck

variable {states controls : Nat} {first second third : PairCheck states controls}

theorem BeforeByPair.trans (hfirst : first.BeforeByPair second)
    (hsecond : second.BeforeByPair third) : first.BeforeByPair third := by
  simp only [BeforeByPair, Fin.lt_def, Fin.ext_iff] at hfirst hsecond ⊢
  omega

theorem beforeByPair_trichotomy (first second : PairCheck states controls) :
    first.BeforeByPair second ∨ first = second ∨ second.BeforeByPair first := by
  obtain ⟨state, control, check⟩ := first
  obtain ⟨otherState, otherControl, otherCheck⟩ := second
  simp only [BeforeByPair, PairCheck.mk.injEq]
  rcases lt_trichotomy state otherState with hlt | rfl | hgt
  · exact .inl (.inl hlt)
  · rcases lt_trichotomy control otherControl with hlt | rfl | hgt
    · exact .inl (.inr ⟨rfl, .inl hlt⟩)
    · rcases Nat.lt_trichotomy check.rank otherCheck.rank with hlt | hequal | hgt
      · exact .inl (.inr ⟨rfl, .inr ⟨rfl, hlt⟩⟩)
      · exact .inr (.inl ⟨rfl, rfl, Check.rank_injective hequal⟩)
      · exact .inr (.inr (.inr ⟨rfl, .inr ⟨rfl, hgt⟩⟩))
    · exact .inr (.inr (.inr ⟨rfl, .inl hgt⟩))
  · exact .inr (.inr (.inl hgt))

end PairCheck

/-- A check of a solve: of the terminal cost of a state, or of a pair at a time. -/
inductive SweepCheck (states controls horizon : Nat) where
  | ends (state : Fin states)
  | stage (time : Fin horizon) (place : PairCheck states controls)
deriving DecidableEq

namespace SweepCheck

variable {states controls horizon : Nat}

/-- Terminal costs state by state, and after them the times from the last one down. -/
def Before : (first second : SweepCheck states controls horizon) → Prop
  | ends state, ends other => state < other
  | ends _, stage _ _ => True
  | stage _ _, ends _ => False
  | stage time place, stage otherTime other =>
      otherTime < time ∨ time = otherTime ∧ place.BeforeByPair other

theorem Before.trans {first second third : SweepCheck states controls horizon}
    (hfirst : first.Before second) (hsecond : second.Before third) : first.Before third := by
  rcases first with state | ⟨time, place⟩ <;> rcases second with other | ⟨otherTime, other⟩ <;>
    rcases third with last | ⟨lastTime, last⟩
  · exact Fin.lt_trans hfirst hsecond
  · trivial
  · exact absurd hsecond id
  · trivial
  · exact absurd hfirst id
  · exact absurd hfirst id
  · exact absurd hsecond id
  · rcases hfirst with hlt | ⟨rfl, hplace⟩
    · rcases hsecond with hlater | ⟨rfl, _⟩
      · exact .inl (Fin.lt_trans hlater hlt)
      · exact .inl hlt
    · rcases hsecond with hlater | ⟨rfl, hother⟩
      · exact .inl hlater
      · exact .inr ⟨rfl, hplace.trans hother⟩

theorem before_trichotomy (first second : SweepCheck states controls horizon) :
    first.Before second ∨ first = second ∨ second.Before first := by
  rcases first with state | ⟨time, place⟩ <;> rcases second with other | ⟨otherTime, other⟩
  · rcases lt_trichotomy state other with hlt | rfl | hgt
    · exact .inl hlt
    · exact .inr (.inl rfl)
    · exact .inr (.inr hgt)
  · exact .inl trivial
  · exact .inr (.inr trivial)
  · rcases lt_trichotomy time otherTime with hlt | rfl | hgt
    · exact .inr (.inr (.inl hlt))
    · rcases place.beforeByPair_trichotomy other with hbefore | rfl | hafter
      · exact .inl (.inr ⟨rfl, hbefore⟩)
      · exact .inr (.inl rfl)
      · exact .inr (.inr (.inr ⟨rfl, hafter⟩))
    · exact .inl (.inl hgt)

end SweepCheck

/-- A place with a report, before which there is none. -/
structure IsFirstReport {ι ε : Type} (report? : ι → Option ε) (before : ι → ι → Prop) (first : ι)
    (report : ε) : Prop where
  reports : report? first = some report
  first : ∀ other, before other first → report? other = none

/-- In an order that tells all places apart there is one first report. -/
theorem IsFirstReport.unique {ι ε : Type} {report? : ι → Option ε} {before : ι → ι → Prop}
    (htrichotomy : ∀ left right, before left right ∨ left = right ∨ before right left)
    {first second : ι} {report other : ε} (hfirst : IsFirstReport report? before first report)
    (hsecond : IsFirstReport report? before second other) : first = second ∧ report = other := by
  rcases htrichotomy first second with hbefore | rfl | hafter
  · have hnone := hsecond.first first hbefore
    rw [hfirst.reports] at hnone
    cases hnone
  · exact ⟨rfl, Option.some.inj (hfirst.reports.symm.trans hsecond.reports)⟩
  · have hnone := hfirst.first second hafter
    rw [hsecond.reports] at hnone
    cases hnone

variable {α : Type}

/-! ### Reasons -/

theorem NonFinite.nonFinite?_of_judge {β : Type} {nonFinite? : β → Option NonFinite}
    {convert : β → α} {quantity : β} {what : NonFinite}
    (hjudged : judge nonFinite? convert quantity = .error what) :
    nonFinite? quantity = some what := by
  cases hquantity : nonFinite? quantity with
  | none => simp [judge, hquantity] at hjudged
  | some found => simpa [judge, hquantity] using hjudged

theorem NonFinite.nonFinite?_of_judge_ok {β : Type} {nonFinite? : β → Option NonFinite}
    {convert : β → α} {quantity : β} {number : α}
    (hjudged : judge nonFinite? convert quantity = .ok number) : nonFinite? quantity = none := by
  cases hquantity : nonFinite? quantity with
  | none => rfl
  | some found => simp [judge, hquantity] at hjudged

variable [Number α]

/-- Why a reply is rejected that raises or holds a number that is not finite.  The reason of an
exception may be one that cannot be written. -/
def Reply.reason? : Reply α → Option (Except Raised (Reason α))
  | .raised exception => some exception.reason
  | .number result => (Number.nonFinite? result).map fun what => .ok (.notFinite what)
  | .other value =>
      value.toReal.toOption.bind fun number =>
        (NonFinite.ofFloat? number).map fun what => .ok (.notFinite what)

theorem Reply.reason?_of_finite {reply : Reply α} {number : α}
    (hfinite : reply.result?.bind Except.toOption = some number) : reply.reason? = none := by
  obtain ⟨found, hfound, hnumber⟩ := Option.bind_eq_some_iff.mp hfinite
  obtain rfl := toOption_eq_some_iff.mp hnumber
  cases reply with
  | raised exception => cases hfound
  | number given =>
      have hjudged := Option.some.inj hfound
      rw [reason?, NonFinite.nonFinite?_of_judge_ok hjudged, Option.map_none]
  | other value =>
      obtain ⟨given, hgiven, hjudged⟩ := Option.map_eq_some_iff.mp hfound
      rw [reason?, hgiven, Option.bind_some, NonFinite.nonFinite?_of_judge_ok hjudged,
        Option.map_none]

theorem Reply.reason?_of_notFinite {reply : Reply α} {what : NonFinite}
    (hresult : reply.result? = some (.error what)) :
    reply.reason? = some (.ok (.notFinite what)) := by
  cases reply with
  | raised exception => cases hresult
  | number given =>
      have hjudged := Option.some.inj hresult
      rw [reason?, NonFinite.nonFinite?_of_judge hjudged, Option.map_some]
  | other value =>
      obtain ⟨given, hgiven, hjudged⟩ := Option.map_eq_some_iff.mp hresult
      rw [reason?, hgiven, Option.bind_some, NonFinite.nonFinite?_of_judge hjudged, Option.map_some]

/-- The callback that a check of a pair is reported for. -/
def Check.role : Check → Role
  | dynamics => .dynamics
  | stageCost => .stageCost
  | sum => .stageCost

/-- The report of a rejected call, or what the attempt to write its reason has ended with. -/
def EvaluationError.ofReason (failure : Reason α → CallbackFailure α) :
    Except Raised (Reason α) → EvaluationError α
  | .ok reason => .callback (failure reason)
  | .error cause => .unwritten cause

/-- What is reported at a check for a reason: the callback, the point and the time of the check. -/
def SweepCheck.failure (states controls : Grid α) {horizon : Nat} :
    SweepCheck states.size controls.size horizon → Reason α → CallbackFailure α
  | ends state, reason => ⟨.terminalCost, states.point state, none, horizon, reason⟩
  | stage time place, reason =>
      ⟨place.check.role, states.point place.state, some (controls.point place.control), time,
        reason⟩

/-- The error by which a solve ends at a check. -/
def SweepCheck.error (states controls : Grid α) {horizon : Nat}
    (check : SweepCheck states.size controls.size horizon) (reason : Except Raised (Reason α)) :
    SolveError α :=
  .evaluation (.ofReason (check.failure states controls) reason)

namespace Problem

/-- Every call that a solve makes raises or hands back a number, finite or not. -/
def AnswersOrRaises (problem : Problem α) (states controls : Grid α) (horizon : Nat) : Prop :=
  ∀ role state control time, Evaluates states controls horizon role state control time →
    (∃ exception, problem.callAt role state control time = .raised exception) ∨
      (problem.callAt role state control time).result?.isSome = true

/-- The stage cost and the next cost-to-go of a pair whose sum is not finite, given the next
costs-to-go.  Only where both callbacks give finite numbers there is a sum. -/
def overflow? (problem : Problem α) (states : Grid α) (next : Column α states.size) (time : Int)
    (state control : α) : Option (Reason α) :=
  match problem.pointResult.finite? .dynamics state (some control) time,
    problem.pointResult.finite? .stageCost state (some control) time with
  | some successor, some stage =>
      let later := next.get (states.nearestIndex successor)
      if (Stage.sum? stage later).isSome then none else some (.overflow stage later)
  | _, _ => none

/-- Why a check of a pair fails, given the next costs-to-go. -/
def pairReason? (problem : Problem α) (states : Grid α) (next : Column α states.size) (time : Int)
    (state control : α) : Check → Option (Except Raised (Reason α))
  | .dynamics => (problem.callAt .dynamics state (some control) time).reason?
  | .stageCost => (problem.callAt .stageCost state (some control) time).reason?
  | .sum => (problem.overflow? states next time state control).map .ok

/-- Why a check of a solve fails.  A pair is checked with the costs-to-go of the later times, and
not at all where these are not found. -/
def reason? (problem : Problem α) (states controls : Grid α) (horizon : Nat) :
    SweepCheck states.size controls.size horizon → Option (Except Raised (Reason α))
  | .ends state => (problem.callAt .terminalCost (states.point state) none horizon).reason?
  | .stage time place =>
      (Recursion.costs? problem.pointResult.finite? states controls horizon
        (horizon - (time.val + 1))).bind fun next =>
          problem.pairReason? states (next.map some) time (states.point place.state)
            (controls.point place.control) place.check

variable {problem : Problem α} {states controls : Grid α} {next : Column α states.size}
  {horizon : Nat} {time : Int} {cause : EvaluationError α}

theorem reason?_of_finite {role : Role} {state : α} {control : Option α} {number : α}
    (hfinite : problem.pointResult.finite? role state control time = some number) :
    (problem.callAt role state control time).reason? = none :=
  Reply.reason?_of_finite hfinite

/-- A rejected call raises or gives a number that is not finite, and ends with the error of that. -/
theorem evaluate_stops (hreplies : problem.AnswersOrRaises states controls horizon)
    (hhorizon : IsWritableTime horizon) {role : Role} {state : α} {control : Option α}
    (hevaluates : Evaluates states controls horizon role state control time)
    (hfails : problem.evaluate role state control time = .error cause) :
    ∃ reason, (problem.callAt role state control time).reason? = some reason ∧
      cause = .ofReason (fun reason => ⟨role, state, control, time, reason⟩) reason := by
  have htime := hevaluates.isWritableTime hhorizon
  rcases hreplies role state control time hevaluates with ⟨exception, hraised⟩ | hanswer
  · refine ⟨exception.reason, by rw [hraised]; rfl, ?_⟩
    rw [evaluate, hraised] at hfails
    cases exception with
    | written kind text =>
        rw [← Except.error.inj hfails]
        exact CallbackFailure.report_eq_callback htime
    | unwritten kind found => exact (Except.error.inj hfails).symm
  · obtain ⟨what, hwhat, rfl⟩ := evaluate_eq_error htime hanswer hfails
    exact ⟨.ok (.notFinite what), Reply.reason?_of_notFinite hwhat, rfl⟩

theorem overflow?_of_finite {state control successor stage : α}
    (hdynamics : problem.pointResult.finite? .dynamics state (some control) time = some successor)
    (hstage : problem.pointResult.finite? .stageCost state (some control) time = some stage) :
    problem.overflow? states next time state control =
      if (Stage.sum? stage (next.get (states.nearestIndex successor))).isSome then none
      else some (.overflow stage (next.get (states.nearestIndex successor))) := by
  simp only [overflow?, hdynamics, hstage]

/-- A pair with a cost passes every check. -/
theorem pairReason?_eq_none {state control cost : α}
    (hcost : Recursion.candidate? problem.pointResult.finite? states next time state control =
      some cost) (check : Check) :
    problem.pairReason? states next time state control check = none := by
  obtain ⟨successor, stage, later, hdynamics, hstage, hlater, rfl, hfinite⟩ :=
    Recursion.candidate?_eq_some_iff.mp hcost
  cases check with
  | dynamics => exact reason?_of_finite hdynamics
  | stageCost => exact reason?_of_finite hstage
  | sum =>
      rw [pairReason?, overflow?_of_finite hdynamics hstage, hlater,
        Recursion.sum?_eq_some_iff.mpr ⟨later, rfl, rfl, hfinite⟩]
      rfl

/-- A state with a choice passes every check. -/
theorem pairReason?_of_choice? {state : α} {choice : Choice α}
    (hchoice : Recursion.choice? problem.pointResult.finite? states controls next time state =
      some choice) (control : Fin controls.size) (check : Check) :
    problem.pairReason? states next time state (controls.point control) check = none := by
  obtain ⟨costs, hcosts, _⟩ := Recursion.choice?_eq_some hchoice
  exact pairReason?_eq_none (hcosts control) check

end Problem

namespace Stage

open Problem

variable {problem : Problem α} {states controls : Grid α} {next : Column α states.size}
  {horizon time : Nat} {cause : EvaluationError α}

/-- A pair stops at the first of its checks that fails. -/
theorem candidate_stops (hreplies : problem.AnswersOrRaises states controls horizon)
    (hhorizon : IsWritableTime horizon) (htime : time < horizon) {state control : α}
    (hstate : state ∈ states.points) (hcontrol : control ∈ controls.points)
    (hfails : candidate problem states next time state control = .error cause) :
    ∃ check reason,
      cause = .ofReason (fun reason => ⟨check.role, state, some control, time, reason⟩) reason ∧
      problem.pairReason? states next time state control check = some reason ∧
      ∀ earlier : Check, earlier.rank < check.rank →
        problem.pairReason? states next time state control earlier = none := by
  have hevaluates : ∀ {role : Role}, role.takesControl = true →
      Evaluates states controls horizon role state (some control) time :=
    fun hrole => .pair hrole hstate hcontrol htime
  unfold candidate at hfails
  cases hdynamics : problem.evaluate .dynamics state (some control) time with
  | error found =>
      rw [hdynamics] at hfails
      obtain rfl := Except.error.inj hfails
      obtain ⟨reason, hreason, rfl⟩ :=
        evaluate_stops hreplies hhorizon (hevaluates rfl) hdynamics
      exact ⟨.dynamics, reason, rfl, hreason,
        fun earlier hearlier => absurd hearlier (Nat.not_lt_zero _)⟩
  | ok successor =>
      have hsuccessor := (problem.evaluate_eq_ok_iff _ _ _ _ _).mp hdynamics
      rw [hdynamics] at hfails
      cases hstage : problem.evaluate .stageCost state (some control) time with
      | error found =>
          simp only [hstage, bind, Except.bind, Except.error.injEq] at hfails
          subst hfails
          obtain ⟨reason, hreason, rfl⟩ := evaluate_stops hreplies hhorizon (hevaluates rfl) hstage
          refine ⟨.stageCost, reason, rfl, hreason, ?_⟩
          intro earlier hearlier
          cases earlier with
          | dynamics => exact reason?_of_finite hsuccessor
          | stageCost => exact absurd hearlier (Nat.lt_irrefl _)
          | sum => exact absurd hearlier (by decide)
      | ok stage =>
          have hcost := (problem.evaluate_eq_ok_iff _ _ _ _ _).mp hstage
          simp only [hstage, bind, Except.bind] at hfails
          cases hsum : sumAt state control time stage
              (next.get (states.nearestIndex successor)) with
          | ok cost =>
              rw [hsum] at hfails
              cases hfails
          | error found =>
              rw [hsum] at hfails
              obtain rfl := Except.error.inj hfails
              obtain ⟨hnone, rfl⟩ := sumAt_eq_error (hhorizon.of_le (Nat.le_of_lt htime)) hsum
              refine ⟨.sum, .ok (.overflow stage (next.get (states.nearestIndex successor))), rfl,
                ?_, ?_⟩
              · rw [pairReason?, overflow?_of_finite hsuccessor hcost, hnone]
                rfl
              · intro earlier hearlier
                cases earlier with
                | dynamics => exact reason?_of_finite hsuccessor
                | stageCost => exact reason?_of_finite hcost
                | sum => exact absurd hearlier (Nat.lt_irrefl _)

/-- A state stops at its first control that fails a check. -/
theorem choose_stops (hscalar : problem.vectorized = false)
    (hreplies : problem.AnswersOrRaises states controls horizon)
    (hhorizon : IsWritableTime horizon) (htime : time < horizon) {state : α}
    (hstate : state ∈ states.points)
    (hfails : choose problem states controls next time state = .error cause) :
    ∃ index check reason,
      cause = .ofReason
        (fun reason => ⟨check.role, state, some (controls.point index), time, reason⟩) reason ∧
      problem.pairReason? states next time state (controls.point index) check = some reason ∧
      (∀ earlier : Check, earlier.rank < check.rank →
        problem.pairReason? states next time state (controls.point index) earlier = none) ∧
      ∀ other < index, ∀ each,
        problem.pairReason? states next time state (controls.point other) each = none := by
  obtain ⟨index, hindex, hbefore⟩ := Choice.search_eq_error hfails
  obtain ⟨check, reason, hcause, hreason, hearlier⟩ :=
    candidate_stops hreplies hhorizon htime hstate (controls.point_mem index) hindex
  refine ⟨index, check, reason, hcause, hreason, hearlier, fun other hother each => ?_⟩
  obtain ⟨choice, hchoice⟩ := hbefore other hother
  obtain ⟨cost, hcost, _⟩ := Option.map_eq_some_iff.mp (((candidate_agrees
    (actsAs_of_scalar hscalar) hscalar next htime hstate (controls.point_mem other)).ok_iff
      choice).mp hchoice)
  exact pairReason?_eq_none hcost each

end Stage

namespace GridProblem

open Problem

variable {task : GridProblem α} {horizon : Nat}

/-- The rows of a block stop at the first state that has no choice. -/
theorem chooseRows_stops (hscalar : task.problem.vectorized = false)
    {next : Column α task.states.size} {time : Nat} {block : Block} {cause : EvaluationError α}
    (hfails : task.chooseRows next time block = .error cause) :
    ∃ state : Fin task.states.size, block.Contains state ∧
      Stage.choose task.problem task.states task.controls next time (task.states.point state) =
        .error cause ∧
      ∀ earlier : Fin task.states.size, block.Contains earlier → earlier < state →
        ∃ choice, Recursion.choice? task.problem.pointResult.finite? task.states task.controls next
          time (task.states.point earlier) = some choice := by
  rw [chooseRows, if_neg (Bool.eq_false_iff.mp hscalar)] at hfails
  obtain ⟨row, hrow, hfound, hbefore⟩ := mapM_eq_error hfails
  rw [Array.length_toList] at hrow
  obtain ⟨hstate, hstop, hpoint⟩ := task.states.getElem_extract hrow
  rw [Array.getElem_toList, hpoint] at hfound
  refine ⟨⟨block.start + row, hstate⟩, ⟨Nat.le_add_right _ _, hstop⟩, hfound, ?_⟩
  rintro earlier ⟨hfrom, _⟩ hlt
  obtain ⟨offset, hoffset⟩ := Nat.exists_eq_add_of_le hfrom
  have hearlier : offset < row := by
    have hval : earlier.val < block.start + row := hlt
    omega
  obtain ⟨hstateEarlier, _, hpointEarlier⟩ :=
    task.states.getElem_extract (Nat.lt_trans hearlier hrow)
  obtain ⟨choice, hchoice⟩ := hbefore offset hearlier
  rw [Array.getElem_toList, hpointEarlier] at hchoice
  obtain rfl : earlier = ⟨block.start + offset, hstateEarlier⟩ := Fin.ext hoffset
  exact ⟨choice, ((Stage.choose_agrees (actsAs_of_scalar hscalar) hscalar next
    (Nat.lt_succ_self time) (task.states.point_mem _)).ok_iff choice).mp hchoice⟩

/-- A time stops at the first state that has no choice, wherever the blocks begin. -/
theorem sweepTime_stops_at_state (hscalar : task.problem.vectorized = false) {chunkSize : Nat}
    (hchunk : 0 < chunkSize) {time : Fin horizon} {table : Table α task.states.size horizon}
    {error : SolveError α}
    (hfails : task.sweepTime chunkSize .sequential time table = .error error) :
    ∃ (state : Fin task.states.size) (cause : EvaluationError α), error = .evaluation cause ∧
      Stage.choose task.problem task.states task.controls (table.cost.get time.succ) time
        (task.states.point state) = .error cause ∧
      ∀ earlier < state, ∃ choice,
        Recursion.choice? task.problem.pointResult.finite? task.states task.controls
          (table.cost.get time.succ) time (task.states.point earlier) = some choice := by
  have hacts := actsAs_of_scalar hscalar
  have hbounds : ∀ block ∈ Block.cover task.states.size chunkSize,
      block.start < block.stop ∧ block.stop ≤ task.states.size :=
    fun block hmem => Block.bounds_of_mem_cover hchunk hmem
  obtain ⟨index, hindex, cause, hcause, rfl, hbefore⟩ :=
    foldlM_sweepBlock_eq_error hacts time rfl hbounds hfails
  obtain ⟨state, hcontains, hchoose, hrows⟩ := chooseRows_stops hscalar hcause
  have hindexOf := (Block.contains_cover_iff hchunk hindex state.isLt).mp hcontains
  refine ⟨state, cause, rfl, hchoose, ?_⟩
  -- An earlier state is in the same block or in one that has found all its choices.
  intro earlier hlt
  rcases Nat.lt_or_eq_of_le (Nat.div_le_div_right (Fin.le_of_lt hlt)) with hblock | hequal
  · rw [hindexOf] at hblock
    have hplace := Nat.lt_trans hblock hindex
    obtain ⟨choices, hchoices⟩ := hbefore _ hblock
    exact exists_choice?_of_chooseRows hacts (hbounds _ (List.getElem_mem hplace)) hchoices
      ((Block.contains_cover_iff hchunk hplace earlier.isLt).mpr rfl)
  · exact hrows earlier ((Block.contains_cover_iff hchunk hindex earlier.isLt).mpr
      (hequal.trans hindexOf)) hlt

/-- A time stops at the first of its checks that fails. -/
theorem sweepTime_stops (hscalar : task.problem.vectorized = false)
    (hreplies : task.problem.AnswersOrRaises task.states task.controls horizon)
    (hhorizon : IsWritableTime horizon) {chunkSize : Nat} (hchunk : 0 < chunkSize)
    {time : Fin horizon} {table : Table α task.states.size horizon} {error : SolveError α}
    (hfails : task.sweepTime chunkSize .sequential time table = .error error) :
    ∃ place reason,
      error = (SweepCheck.stage time place).error task.states task.controls reason ∧
      IsFirstReport (fun other : PairCheck task.states.size task.controls.size =>
        task.problem.pairReason? task.states (table.cost.get time.succ) time
          (task.states.point other.state) (task.controls.point other.control) other.check)
        PairCheck.BeforeByPair place reason := by
  obtain ⟨state, cause, rfl, hchoose, hstates⟩ := sweepTime_stops_at_state hscalar hchunk hfails
  obtain ⟨control, check, reason, rfl, hreason, hchecks, hcontrols⟩ :=
    Stage.choose_stops hscalar hreplies hhorizon time.isLt (task.states.point_mem state) hchoose
  refine ⟨⟨state, control, check⟩, reason, rfl, hreason, ?_⟩
  rintro ⟨otherState, otherControl, otherCheck⟩ hother
  have hcases : otherState < state ∨ otherState = state ∧
    (otherControl < control ∨ otherControl = control ∧ otherCheck.rank < check.rank) := hother
  rcases hcases with hlt | ⟨rfl, hlt | ⟨rfl, hrank⟩⟩
  · obtain ⟨choice, hchoice⟩ := hstates otherState hlt
    exact pairReason?_of_choice? hchoice otherControl otherCheck
  · exact hcontrols otherControl hlt otherCheck
  · exact hchecks otherCheck hrank

end GridProblem

end BellmanGrid
