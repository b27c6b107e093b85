import BellmanGrid.Proofs.Rejections
import BellmanGrid.Proofs.StageAgreement

/-!
The checks of a state and a control, and the one that a step reports.

A pair is checked three times: for its successor, for its stage cost, and for the sum of the stage
cost and the next cost-to-go.  A state that is worked on by itself reports the first check that
fails of the first pair that has one.  A block that is worked on at once makes each check for all of
its pairs before the next one, and reports the first pair at which the first failing check fails.
-/

namespace BellmanGrid

/-- What is checked of a state and a control. -/
inductive Check where
  | dynamics
  | stageCost
  | sum
deriving Repr, DecidableEq

/-- The place of a check in the order in which checks are made. -/
def Check.rank : Check → Nat
  | dynamics => 0
  | stageCost => 1
  | sum => 2

variable {α : Type}

namespace PointResult

/-- What is reported where a callback gives a number that is not finite. -/
def rejection? (result : PointResult α) (role : Role) (state control : α) (time : Int) :
    Option (CallbackFailure α) :=
  match result role state (some control) time with
  | some (.error what) => some ⟨role, state, some control, time, .notFinite what⟩
  | _ => none

theorem rejection?_eq_some {result : PointResult α} {role : Role} {state control : α} {time : Int}
    {what : NonFinite} (hresult : result role state (some control) time = some (.error what)) :
    result.rejection? role state control time =
      some ⟨role, state, some control, time, .notFinite what⟩ := by
  rw [rejection?, hresult]

theorem rejection?_eq_none {result : PointResult α} {role : Role} {state control : α} {time : Int}
    {number : α} (hfinite : result.finite? role state (some control) time = some number) :
    result.rejection? role state control time = none := by
  obtain ⟨found, hfound, hnumber⟩ := Option.bind_eq_some_iff.mp hfinite
  obtain rfl := toOption_eq_some_iff.mp hnumber
  rw [rejection?, hfound]

variable [Number α] {result : PointResult α} {states : Grid α} {next : Column α states.size}
  {time : Int} {state control : α}

/-- What is reported where a check fails, given the next costs-to-go.  Only where both callbacks
give finite numbers there is a sum to check. -/
def offence? (result : PointResult α) (states : Grid α) (next : Column α states.size) (time : Int)
    (state control : α) : Check → Option (CallbackFailure α)
  | .dynamics => result.rejection? .dynamics state control time
  | .stageCost => result.rejection? .stageCost state control time
  | .sum =>
      match result.finite? .dynamics state (some control) time,
        result.finite? .stageCost state (some control) time with
      | some successor, some stage =>
          let later := next.get (states.nearestIndex successor)
          match Stage.sum? stage later with
          | some _ => none
          | none => some ⟨.stageCost, state, some control, time, .overflow stage later⟩
      | _, _ => none

theorem offence?_sum {successor stage : α}
    (hdynamics : result.finite? .dynamics state (some control) time = some successor)
    (hstage : result.finite? .stageCost state (some control) time = some stage) :
    result.offence? states next time state control .sum =
      match Stage.sum? stage (next.get (states.nearestIndex successor)) with
      | some _ => none
      | none => some ⟨.stageCost, state, some control, time,
          .overflow stage (next.get (states.nearestIndex successor))⟩ := by
  simp only [offence?, hdynamics, hstage]

/-- Every report carries the time of its check. -/
theorem time_of_offence? {check : Check} {failure : CallbackFailure α}
    (hoffence : result.offence? states next time state control check = some failure) :
    failure.time = time := by
  have hrejection : ∀ {role}, result.rejection? role state control time = some failure →
      failure.time = time := by
    intro role hrejected
    unfold rejection? at hrejected
    split at hrejected
    · rw [← Option.some.inj hrejected]
    · cases hrejected
  cases check with
  | dynamics => exact hrejection hoffence
  | stageCost => exact hrejection hoffence
  | sum =>
      simp only [offence?] at hoffence
      split at hoffence
      · split at hoffence
        · cases hoffence
        · rw [← Option.some.inj hoffence]
      · cases hoffence

/-- A pair with a cost passes every check. -/
theorem offence?_eq_none {cost : α}
    (hcost : Recursion.candidate? result.finite? states next time state control = some cost)
    (check : Check) : result.offence? states next time state control check = none := by
  obtain ⟨successor, stage, later, hdynamics, hstage, hlater, rfl, hfinite⟩ :=
    Recursion.candidate?_eq_some_iff.mp hcost
  cases check with
  | dynamics => exact rejection?_eq_none hdynamics
  | stageCost => exact rejection?_eq_none hstage
  | sum => simp [offence?_sum hdynamics hstage, hlater, Stage.sum?, hfinite]

/-- Where the successor is finite, no check before the one of the stage cost fails. -/
theorem offence?_before_stageCost {successor : α}
    (hdynamics : result.finite? .dynamics state (some control) time = some successor)
    {earlier : Check} (hearlier : earlier.rank < Check.stageCost.rank) :
    result.offence? states next time state control earlier = none := by
  cases earlier with
  | dynamics => exact rejection?_eq_none hdynamics
  | stageCost => exact absurd hearlier (Nat.lt_irrefl _)
  | sum => exact absurd hearlier (by decide)

/-- Where the successor and the stage cost are finite, only the check of their sum may fail. -/
theorem offence?_before_sum {successor stage : α}
    (hdynamics : result.finite? .dynamics state (some control) time = some successor)
    (hstage : result.finite? .stageCost state (some control) time = some stage)
    {earlier : Check} (hearlier : earlier.rank < Check.sum.rank) :
    result.offence? states next time state control earlier = none := by
  cases earlier with
  | dynamics => exact rejection?_eq_none hdynamics
  | stageCost => exact rejection?_eq_none hstage
  | sum => exact absurd hearlier (Nat.lt_irrefl _)

end PointResult

/-! ### A state that is worked on by itself -/

variable [Number α]

namespace Choice

variable {ε : Type} {count : Nat} {candidate : Fin count → Except ε (Choice α)} {error : ε}

theorem searchFrom_eq_error {start : Nat} {best : Choice α}
    (hpassed : ∀ index : Fin count, index.val < start → ∃ choice, candidate index = .ok choice)
    (hfails : searchFrom candidate start best = .error error) :
    ∃ index, candidate index = .error error ∧
      ∀ earlier < index, ∃ choice, candidate earlier = .ok choice := by
  fun_induction searchFrom candidate start best with
  | case1 start best hstart found hfound ih =>
      apply ih _ hfails
      intro index hindex
      rcases Nat.lt_succ_iff_lt_or_eq.mp hindex with hlt | hequal
      · exact hpassed index hlt
      · obtain rfl : index = ⟨start, hstart⟩ := Fin.ext hequal
        exact ⟨found, hfound⟩
  | case2 start best hstart found hfound =>
      obtain rfl := Except.error.inj hfails
      exact ⟨⟨start, hstart⟩, hfound, fun earlier hearlier => hpassed earlier hearlier⟩
  | case3 start best hstart => cases hfails

/-- A search fails as its first failing candidate does. -/
theorem search_eq_error {hcount : 0 < count} (hfails : search hcount candidate = .error error) :
    ∃ index, candidate index = .error error ∧
      ∀ earlier < index, ∃ choice, candidate earlier = .ok choice := by
  rw [search] at hfails
  cases hfirst : candidate ⟨0, hcount⟩ with
  | error found =>
      rw [hfirst] at hfails
      obtain rfl := Except.error.inj hfails
      exact ⟨⟨0, hcount⟩, hfirst, fun earlier hearlier => absurd hearlier (Nat.not_lt_zero _)⟩
  | ok first =>
      rw [hfirst] at hfails
      apply searchFrom_eq_error _ hfails
      intro index hindex
      obtain rfl : index = ⟨0, hcount⟩ := Fin.ext (Nat.lt_one_iff.mp hindex)
      exact ⟨first, hfirst⟩

end Choice

namespace Stage

variable {problem : Problem α} {result : PointResult α} {states controls : Grid α}
  {next : Column α states.size} {horizon time : Nat} {error : EvaluationError α}

theorem sumAt_eq_ok {time : Int} {state control stage cost : α} {later : Option α}
    (hsum : sumAt state control time stage later = .ok cost) : sum? stage later = some cost := by
  unfold sumAt at hsum
  split at hsum
  · next found hfound => rw [hfound, Except.ok.inj hsum]
  · cases hsum

theorem sumAt_eq_error {time : Int} (hwritable : IsWritableTime time)
    {state control stage : α} {later : Option α}
    (hfails : sumAt state control time stage later = .error error) :
    sum? stage later = none ∧
      error = .callback ⟨.stageCost, state, some control, time, .overflow stage later⟩ := by
  unfold sumAt at hfails
  split at hfails
  · cases hfails
  · next hnone =>
      rw [CallbackFailure.report_eq_callback hwritable, Except.error.injEq] at hfails
      exact ⟨hnone, hfails.symm⟩

section Reports

variable (hacts : problem.ActsAs result) (hanswers : result.AnswersOn states controls horizon)
  (hhorizon : IsWritableTime horizon) (htime : time < horizon)

include hacts hanswers hhorizon htime

/-- A pair reports the first check that it fails. -/
theorem candidate_eq_error (hscalar : problem.vectorized = false) {state control : α}
    (hstate : state ∈ states.points) (hcontrol : control ∈ controls.points)
    (hfails : candidate problem states next time state control = .error error) :
    ∃ check failure, result.offence? states next time state control check = some failure ∧
      error = .callback failure ∧
      ∀ earlier : Check, earlier.rank < check.rank →
        result.offence? states next time state control earlier = none := by
  have hevaluates : ∀ {role : Role}, role.takesControl = true →
      Evaluates states controls horizon role state (some control) time :=
    fun hrole => .pair hrole hstate hcontrol htime
  unfold candidate at hfails
  cases hdynamics : problem.evaluate .dynamics state (some control) time with
  | error found =>
      rw [hdynamics] at hfails
      obtain rfl := Except.error.inj hfails
      obtain ⟨what, hwhat, rfl⟩ := hacts.evaluate_eq_error hscalar hanswers hhorizon
        (hevaluates rfl) hdynamics
      exact ⟨.dynamics, _, PointResult.rejection?_eq_some hwhat, rfl,
        fun earlier hearlier => absurd hearlier (Nat.not_lt_zero _)⟩
  | ok successor =>
      have hsuccessor := (hacts.evaluate_eq_ok_iff hscalar).mp hdynamics
      rw [hdynamics] at hfails
      cases hstage : problem.evaluate .stageCost state (some control) time with
      | error found =>
          simp only [hstage, bind, Except.bind, Except.error.injEq] at hfails
          obtain ⟨what, hwhat, rfl⟩ := hacts.evaluate_eq_error hscalar hanswers hhorizon
            (hevaluates rfl) hstage
          exact ⟨.stageCost, _, PointResult.rejection?_eq_some hwhat, hfails.symm,
            fun earlier hearlier => PointResult.offence?_before_stageCost hsuccessor hearlier⟩
      | ok stage =>
          have hcost := (hacts.evaluate_eq_ok_iff hscalar).mp hstage
          simp only [hstage, bind, Except.bind] at hfails
          cases hsum : sumAt state control time stage
              (next.get (states.nearestIndex successor)) with
          | ok cost =>
              rw [hsum] at hfails
              cases hfails
          | error found =>
              rw [hsum] at hfails
              obtain rfl := Except.error.inj hfails
              obtain ⟨hnone, rfl⟩ := sumAt_eq_error (hhorizon.of_le (Nat.le_of_lt htime)) hsum
              refine ⟨.sum, _, ?_, rfl, fun earlier hearlier =>
                PointResult.offence?_before_sum hsuccessor hcost hearlier⟩
              rw [PointResult.offence?_sum hsuccessor hcost, hnone]

/-- A state reports its first control that fails a check, and the first check that fails there. -/
theorem choose_eq_error (hscalar : problem.vectorized = false) {state : α}
    (hstate : state ∈ states.points)
    (hfails : choose problem states controls next time state = .error error) :
    ∃ index check failure,
      result.offence? states next time state (controls.point index) check = some failure ∧
      error = .callback failure ∧
      (∀ earlier : Check, earlier.rank < check.rank →
        result.offence? states next time state (controls.point index) earlier = none) ∧
      ∀ other < index, ∀ each,
        result.offence? states next time state (controls.point other) each = none := by
  obtain ⟨index, hindex, hbefore⟩ := Choice.search_eq_error hfails
  obtain ⟨check, failure, hoffence, herror, hearlier⟩ :=
    candidate_eq_error hacts hanswers hhorizon htime hscalar hstate (controls.point_mem index)
      hindex
  refine ⟨index, check, failure, hoffence, herror, hearlier, fun other hother each => ?_⟩
  obtain ⟨choice, hchoice⟩ := hbefore other hother
  obtain ⟨cost, hcost, _⟩ := Option.map_eq_some_iff.mp (((candidate_agrees hacts hscalar next htime
    hstate (controls.point_mem other)).ok_iff choice).mp hchoice)
  exact PointResult.offence?_eq_none hcost each

/-! ### A block that is worked on at once -/

omit hanswers hhorizon in
/-- The numbers that a callback gives on a block, position by position. -/
theorem finite?_of_evaluateBlock (hvectorized : problem.vectorized = true) {role : Role}
    (hrole : role.takesControl = true) {block : Array α} (hblock : 0 < block.size)
    (hstates : ∀ state ∈ block, state ∈ states.points)
    {numbers : Vector α (extent [block.size, controls.size])}
    (hrun : problem.evaluateBlock role (Tensor.column block)
      (some (Tensor.flatRow controls.points)) time [block.size, controls.size] = .ok numbers)
    (position : Fin (extent [block.size, controls.size])) :
    result.finite? role (stateAt block position) (some (controls.point (columnOf position))) time =
      some (numbers.get position) :=
  ofFnM_eq_some_iff.mp (((hacts.evaluatePairs_agrees hvectorized hrole hblock hstates htime).ok_iff
    numbers).mp hrun) position

/-- A callback that is rejected on a block is reported at the first position at which it is. -/
theorem rejection?_of_evaluateBlock (hvectorized : problem.vectorized = true) {role : Role}
    (hrole : role.takesControl = true) {block : Array α} (hblock : 0 < block.size)
    (hstates : ∀ state ∈ block, state ∈ states.points)
    (hfails : problem.evaluateBlock role (Tensor.column block)
      (some (Tensor.flatRow controls.points)) time [block.size, controls.size] = .error error) :
    ∃ (position : Fin (extent [block.size, controls.size])) (failure : CallbackFailure α),
      result.rejection? role (stateAt block position) (controls.point (columnOf position)) time =
        some failure ∧
      error = .callback failure ∧
      ∀ earlier < position, result.rejection? role (stateAt block earlier)
        (controls.point (columnOf earlier)) time = none := by
  obtain ⟨position, what, hwhat, hbefore, herror⟩ :=
    hacts.evaluatePairs_eq_error hvectorized hanswers hrole hblock hstates hhorizon htime hfails
  refine ⟨position, _, PointResult.rejection?_eq_some hwhat, herror, ?_⟩
  intro earlier hearlier
  obtain ⟨number, hnumber⟩ := hbefore earlier hearlier
  exact PointResult.rejection?_eq_none (Option.bind_eq_some_iff.mpr ⟨_, hnumber, rfl⟩)

/-- A block reports the first check that fails at any of its positions, at the first of them. -/
theorem chooseBlock_eq_error (hvectorized : problem.vectorized = true) {block : Array α}
    (hblock : 0 < block.size) (hstates : ∀ state ∈ block, state ∈ states.points)
    (hfails : chooseBlock problem states controls next time block = .error error) :
    ∃ (position : Fin (extent [block.size, controls.size])) (check : Check)
      (failure : CallbackFailure α),
      result.offence? states next time (stateAt block position)
        (controls.point (columnOf position)) check = some failure ∧
      error = .callback failure ∧
      (∀ earlier : Check, earlier.rank < check.rank →
        ∀ other : Fin (extent [block.size, controls.size]), result.offence? states next time
          (stateAt block other) (controls.point (columnOf other)) earlier = none) ∧
      ∀ earlier < position, result.offence? states next time (stateAt block earlier)
        (controls.point (columnOf earlier)) check = none := by
  unfold chooseBlock at hfails
  cases hdynamics : problem.evaluateBlock .dynamics (Tensor.column block)
      (some (Tensor.flatRow controls.points)) time [block.size, controls.size] with
  | error found =>
      simp only [hdynamics, bind, Except.bind, Except.error.injEq] at hfails
      obtain ⟨position, failure, hoffence, herror, hbefore⟩ :=
        rejection?_of_evaluateBlock hacts hanswers hhorizon htime hvectorized rfl hblock hstates
          hdynamics
      exact ⟨position, .dynamics, failure, hoffence, hfails.symm.trans herror,
        fun earlier hearlier => absurd hearlier (Nat.not_lt_zero _), hbefore⟩
  | ok successors =>
      have hsuccessor := finite?_of_evaluateBlock hacts htime hvectorized rfl hblock hstates
        hdynamics
      cases hstages : problem.evaluateBlock .stageCost (Tensor.column block)
          (some (Tensor.flatRow controls.points)) time [block.size, controls.size] with
      | error found =>
          simp only [hdynamics, hstages, bind, Except.bind, Except.error.injEq] at hfails
          obtain ⟨position, failure, hoffence, herror, hbefore⟩ :=
            rejection?_of_evaluateBlock hacts hanswers hhorizon htime hvectorized rfl hblock
              hstates hstages
          exact ⟨position, .stageCost, failure, hoffence, hfails.symm.trans herror,
            fun earlier hearlier other =>
              PointResult.offence?_before_stageCost (hsuccessor other) hearlier, hbefore⟩
      | ok stages =>
          have hstage := finite?_of_evaluateBlock hacts htime hvectorized rfl hblock hstates hstages
          simp only [hdynamics, hstages, bind, Except.bind] at hfails
          cases hsums : blockSums states controls next time block successors stages with
          | ok sums =>
              rw [hsums] at hfails
              cases hfails
          | error found =>
              rw [hsums] at hfails
              obtain rfl := Except.error.inj hfails
              obtain ⟨position, hposition, hbefore⟩ := ofFnM_eq_error hsums
              obtain ⟨hnone, rfl⟩ := sumAt_eq_error (hhorizon.of_le (Nat.le_of_lt htime)) hposition
              refine ⟨position, .sum, _, ?_, rfl, fun earlier hearlier other =>
                PointResult.offence?_before_sum (hsuccessor other) (hstage other) hearlier, ?_⟩
              · rw [PointResult.offence?_sum (hsuccessor position) (hstage position), hnone]
              · intro earlier hearlier
                obtain ⟨cost, hcost⟩ := hbefore earlier hearlier
                rw [PointResult.offence?_sum (hsuccessor earlier) (hstage earlier),
                  sumAt_eq_ok hcost]

end Reports

end Stage

end BellmanGrid
