import BellmanGrid.Proofs.Agreement
import BellmanGrid.Sweep.Stage

/-!
Callbacks as functions of a single point.

A point result is what a callback has to say at one state, control and time: nothing when it raises
or hands back no number, otherwise a finite number or what it is instead of one.  A problem acts as
a family of point results when its callbacks hand them back, one by one or a whole block at once.
Checked evaluation then gives the finite ones of them, and fails otherwise.
-/

namespace BellmanGrid

variable {α β : Type}

/-- Does a callback take a control? -/
def Role.takesControl : Role → Bool
  | dynamics => true
  | stageCost => true
  | terminalCost => false

/-- The time has a text, so that failures at it can be reported. -/
abbrev IsWritableTime (time : Int) : Prop :=
  (Value.integer time).isWritable = true

theorem IsWritableTime.of_le {time later : Nat} (hlater : IsWritableTime later)
    (hle : time ≤ later) : IsWritableTime time := by
  rw [IsWritableTime, Value.isWritable, decide_eq_true_eq, Int.natAbs_natCast] at hlater ⊢
  exact Nat.lt_of_le_of_lt hle hlater

/-- A callback was rejected at a time. -/
def EvaluationError.IsCallbackAt (time : Int) (error : EvaluationError α) : Prop :=
  ∃ failure, error = .callback failure ∧ failure.time = time

theorem CallbackFailure.report_isCallbackAt {failure : CallbackFailure α}
    (htime : IsWritableTime failure.time) : failure.report.IsCallbackAt failure.time := by
  obtain ⟨role, state, control, time, reason⟩ := failure
  exact ⟨_, report_eq_callback htime, rfl⟩

/-- A quantity as a finite number, or what it is instead. -/
def NonFinite.judge (nonFinite? : β → Option NonFinite) (convert : β → α) (quantity : β) :
    Except NonFinite α :=
  match nonFinite? quantity with
  | none => .ok (convert quantity)
  | some what => .error what

/-- The finite numbers of a block, if all of its entries are finite. -/
def finiteEntries? {count : Nat} (entries : Vector (Except NonFinite α) count) :
    Option (Vector α count) :=
  Vector.ofFnM fun index => (entries.get index).toOption

/-- The entries of an array repeated to a shape, if the array fits it. -/
def Tensor.entries? (tensor : Tensor β) (shape : List Nat) : Option (Vector β (extent shape)) :=
  (tensor.expand? shape).bind fun expanded =>
    if hsize : expanded.data.size = extent shape then some ⟨expanded.data, hsize⟩ else none

/-- The number that a reply holds, if it holds one. -/
def Reply.result? [Number α] : Reply α → Option (Except NonFinite α)
  | .raised _ => none
  | .number result => some (NonFinite.judge Number.nonFinite? id result)
  | .other value => value.toReal.toOption.map (NonFinite.judge NonFinite.ofFloat? Number.ofFloat)

/-- The numbers that a reply holds on a block, if it holds an array that fits. -/
def Reply.results? [Number α] (shape : List Nat) :
    Reply (Tensor α) → Option (Vector (Except NonFinite α) (extent shape))
  | .raised _ => none
  | .number results =>
      (results.entries? shape).map (·.map (NonFinite.judge Number.nonFinite? id))
  | .other value =>
      match value.isComplexArray, value.toTensor with
      | .ok false, .ok results =>
          (results.entries? shape).map (·.map (NonFinite.judge NonFinite.ofFloat? Number.ofFloat))
      | _, _ => none

/-- The points at which a solve evaluates callbacks: for the terminal cost the states at the end of
the horizon, and for the others all pairs of a state and a control at each time before. -/
inductive Evaluates [Number α] (states controls : Grid α) (horizon : Nat) :
    Role → (state : α) → (control : Option α) → (time : Int) → Prop
  | ends {state : α} (hstate : state ∈ states.points) :
      Evaluates states controls horizon .terminalCost state none horizon
  | pair {role : Role} (hrole : role.takesControl = true) {state control : α}
      (hstate : state ∈ states.points) (hcontrol : control ∈ controls.points) {time : Nat}
      (htime : time < horizon) : Evaluates states controls horizon role state (some control) time

theorem Evaluates.isSome_control [Number α] {states controls : Grid α} {horizon : Nat} {role : Role}
    {state : α} {control : Option α} {time : Int}
    (hevaluates : Evaluates states controls horizon role state control time) :
    control.isSome = role.takesControl := by
  cases hevaluates with
  | ends hstate => rfl
  | pair hrole hstate hcontrol htime => exact hrole.symm

theorem Evaluates.isWritableTime [Number α] {states controls : Grid α} {horizon : Nat} {role : Role}
    {state : α} {control : Option α} {time : Int} (hhorizon : IsWritableTime horizon)
    (hevaluates : Evaluates states controls horizon role state control time) :
    IsWritableTime time := by
  cases hevaluates with
  | ends hstate => exact hhorizon
  | pair hrole hstate hcontrol htime => exact hhorizon.of_le (Nat.le_of_lt htime)

/-- What callbacks have to say at each point, without regard to how they are called. -/
abbrev PointResult (α : Type) : Type :=
  Role → (state : α) → (control : Option α) → (time : Int) → Option (Except NonFinite α)

namespace PointResult

/-- The finite number at a point, if there is one. -/
def finite? (result : PointResult α) (role : Role) (state : α) (control : Option α)
    (time : Int) : Option α :=
  (result role state control time).bind Except.toOption

/-- At every point there is a number, finite or not. -/
def AlwaysAnswers (result : PointResult α) : Prop :=
  ∀ role state control time, control.isSome = role.takesControl →
    (result role state control time).isSome = true

variable [Number α]

/-- There is a number, finite or not, at every point that a solve evaluates. -/
def AnswersOn (result : PointResult α) (states controls : Grid α) (horizon : Nat) : Prop :=
  ∀ role state control time, Evaluates states controls horizon role state control time →
    (result role state control time).isSome = true

theorem AlwaysAnswers.answersOn {result : PointResult α} (hanswers : result.AlwaysAnswers)
    (states controls : Grid α) (horizon : Nat) : result.AnswersOn states controls horizon :=
  fun role state control time hevaluates =>
    hanswers role state control time hevaluates.isSome_control

/-- A failure at a time is one of a callback there, provided that the horizon has a text and that
there is a number at every point that the solve evaluates. -/
def Admits (result : PointResult α) (states controls : Grid α) (horizon : Nat) (time : Int)
    (error : EvaluationError α) : Prop :=
  IsWritableTime horizon → result.AnswersOn states controls horizon → error.IsCallbackAt time

end PointResult

/-- The place of a position on an array with a single axis. -/
def placeOf {count : Nat} (position : Fin (extent [count])) : Fin count :=
  ⟨position.val, by simpa [extent] using position.isLt⟩

/-- Callbacks hand back the point results: at points when the problem is evaluated point by point,
and otherwise on every block of states and controls, entry by entry. -/
structure Problem.ActsAs [Number α] (problem : Problem α) (result : PointResult α) : Prop where
  points : problem.vectorized = false → ∀ role state control time,
    (problem.callAt role state control time).result? = result role state control time
  pairs : problem.vectorized = true → ∀ (role : Role) (states controls : Array α) (time : Int),
    role.takesControl = true → 0 < states.size → 0 < controls.size →
      (problem.callOnBlock role (Tensor.column states) (some (Tensor.flatRow controls))
        time).results? [states.size, controls.size] =
      Vector.ofFnM fun position =>
        result role states[Stage.rowOf position] (some controls[Stage.columnOf position]) time
  ends : problem.vectorized = true → ∀ (states : Array α) (time : Int), 0 < states.size →
    (problem.callOnBlock .terminalCost (Tensor.row states) none time).results? [states.size] =
      Vector.ofFnM fun position => result .terminalCost states[placeOf position] none time

/-! ### Evaluation at a point -/

namespace Problem

variable [Number α]

theorem evaluate_agrees (problem : Problem α) (role : Role) (state : α) (control : Option α)
    (time : Int) :
    Agrees (fun error => IsWritableTime time →
        (problem.callAt role state control time).result?.isSome = true → error.IsCallbackAt time)
      (problem.evaluate role state control time)
      ((problem.callAt role state control time).result?.bind Except.toOption) := by
  unfold evaluate
  cases problem.callAt role state control time with
  | raised exception =>
      simp only [Reply.result?, Option.bind_none]
      cases (exception.reason : Except Raised (Reason α)) <;>
        exact Agrees.of_error fun _ hsome => absurd hsome Bool.false_ne_true
  | number result =>
      cases hresult : Number.nonFinite? result with
      | none =>
          simp [acceptNumber, Reply.result?, NonFinite.judge, hresult, Agrees, Except.toOption]
      | some what =>
          simp only [acceptNumber, Reply.result?, NonFinite.judge, hresult]
          exact Agrees.of_error fun htime _ => CallbackFailure.report_isCallbackAt htime
  | other value =>
      cases hreal : value.toReal with
      | error cause =>
          simp only [Reply.result?, hreal, Except.toOption, Option.map_none]
          cases cause with
          | tooLarge =>
              simp only [acceptValue, hreal]
              exact Agrees.of_error fun _ hsome => absurd hsome Bool.false_ne_true
          | _ =>
              simp only [acceptValue, hreal]
              cases value.isWritable <;>
                exact Agrees.of_error fun _ hsome => absurd hsome Bool.false_ne_true
      | ok number =>
          cases hnumber : NonFinite.ofFloat? number with
          | none =>
              simp [acceptValue, Reply.result?, NonFinite.judge, hreal, hnumber, Agrees,
                Except.toOption]
          | some what =>
              simp only [acceptValue, Reply.result?, NonFinite.judge, hreal, hnumber,
                Except.toOption, Option.map_some]
              exact Agrees.of_error fun htime _ => CallbackFailure.report_isCallbackAt htime

end Problem

/-! ### Evaluation of a block -/

namespace Tensor

theorem shape_of_expand? {tensor expanded : Tensor β} {shape : List Nat}
    (hexpanded : tensor.expand? shape = some expanded) : expanded.shape = shape := by
  unfold expand? at hexpanded
  split at hexpanded
  · next hshape => rw [← Option.some.inj hexpanded, hshape]
  · simp only at hexpanded
    split at hexpanded
    · rw [← Option.some.inj hexpanded]
    · exact absurd hexpanded (Option.some_ne_none _).symm

theorem size_of_expand? {tensor expanded : Tensor β} {shape : List Nat}
    (hexpanded : tensor.expand? shape = some expanded) : expanded.data.size = extent shape := by
  rw [expanded.size_eq, shape_of_expand? hexpanded]

theorem entries?_of_expand? {tensor expanded : Tensor β} {shape : List Nat}
    (hexpanded : tensor.expand? shape = some expanded) :
    tensor.entries? shape = some ⟨expanded.data, size_of_expand? hexpanded⟩ := by
  rw [entries?, hexpanded, Option.bind_some, dif_pos (size_of_expand? hexpanded)]

theorem fits_row (entries : Array β) : (row entries).fits [entries.size] = true := by
  simp [fits, row, Broadcast.fits]

theorem fits_column (entries : Array β) (columns : Nat) :
    (column entries).fits [entries.size, columns] = true := by
  simp [fits, column, Broadcast.fits]

theorem fits_flatRow (rows : Nat) (entries : Array β) :
    (flatRow entries).fits [rows, entries.size] = true := by
  simp [fits, flatRow, Broadcast.fits]

/-- An array that fits a shape has an entry at each of its positions. -/
theorem exists_entryAt? {tensor : Tensor β} {shape : List Nat} (hfits : tensor.fits shape = true)
    {position : Nat} (hposition : position < extent shape) :
    ∃ entry, tensor.entryAt? shape position = some entry := by
  have htarget : position < extent shape.reverse := by rwa [Broadcast.extent_reverse]
  have hsource := Broadcast.sourcePosition_lt hfits htarget
  rw [Broadcast.extent_reverse, ← tensor.size_eq] at hsource
  exact ⟨_, Array.getElem?_eq_getElem hsource⟩

theorem sourcePosition_column {rows columns position : Nat}
    (hposition : position < columns * rows) :
    Broadcast.sourcePosition [1, rows] [columns, rows] position = position / columns := by
  have hrow : position / columns < rows := Nat.div_lt_of_lt_mul hposition
  simp only [Broadcast.sourcePosition, Nat.mod_eq_of_lt hrow, if_true, Nat.one_mul, Nat.zero_add,
    Nat.mul_zero, Nat.add_zero]
  split
  · next hone => exact (Nat.lt_one_iff.mp (hone ▸ hrow)).symm
  · rfl

theorem sourcePosition_flatRow (rows columns position : Nat) :
    Broadcast.sourcePosition [columns, 1] [columns, rows] position = position % columns := by
  simp only [Broadcast.sourcePosition]
  split <;> simp_all [Nat.mod_one]

/-- A column and a row combined: the entry at a position comes from its row and its column. -/
theorem zipWith?_column_flatRow (combine : β → β → β) (states controls : Array β) :
    ∃ combined, zipWith? combine (column states) (flatRow controls) =
        some combined ∧ combined.shape = [states.size, controls.size] ∧
      ∀ position : Fin (extent [states.size, controls.size]), combined.data[position.val]? =
        some (combine states[Stage.rowOf position] controls[Stage.columnOf position]) := by
  have hjoined : Broadcast.join? (Tensor.column states).shape.reverse
      (Tensor.flatRow controls).shape.reverse = some [controls.size, states.size] := by
    simp only [Tensor.column, Tensor.flatRow, List.reverse_cons, List.reverse_nil, List.nil_append,
      List.cons_append, Broadcast.join?, or_true, if_true, Option.map_some]
    split
    · next hsame =>
        have hone : controls.size = 1 := by omega
        rw [hone]
    · rfl
  unfold Tensor.zipWith?
  simp only
  split
  · next hnone => rw [hjoined] at hnone; exact absurd hnone (Option.some_ne_none _)
  · next target hsome =>
      rw [hjoined, Option.some.injEq] at hsome
      subst hsome
      refine ⟨_, rfl, rfl, ?_⟩
      intro position
      have hposition : position.val < controls.size * states.size := by
        simpa [extent, Nat.mul_comm] using position.isLt
      have hcolumn := sourcePosition_column hposition
      have hrow := sourcePosition_flatRow states.size controls.size position.val
      simp [extent, hposition, Tensor.repeated, Tensor.column, Tensor.flatRow, hcolumn, hrow,
        Stage.rowOf, Stage.columnOf]

/-- The state of a position of a block of states and controls. -/
theorem entryAt?_column (states controls : Array α)
    (position : Fin (extent [states.size, controls.size])) :
    (column states).entryAt? [states.size, controls.size] position.val =
      some states[Stage.rowOf position] := by
  have hposition : position.val < controls.size * states.size := by
    simpa [extent, Nat.mul_comm] using position.isLt
  have hrow : (column states).data[position.val / controls.size]? =
      some states[Stage.rowOf position] :=
    Array.getElem?_eq_getElem (Nat.div_lt_of_lt_mul hposition)
  rw [← hrow, ← sourcePosition_column hposition]
  rfl

/-- The control of a position of a block of states and controls. -/
theorem entryAt?_flatRow (states controls : Array α)
    (position : Fin (extent [states.size, controls.size])) :
    (flatRow controls).entryAt? [states.size, controls.size] position.val =
      some controls[Stage.columnOf position] := by
  have hposition : position.val < states.size * controls.size := by
    simpa [extent] using position.isLt
  have hcolumn : (flatRow controls).data[position.val % controls.size]? =
      some controls[Stage.columnOf position] :=
    Array.getElem?_eq_getElem (Nat.mod_lt _ (Nat.pos_of_mul_pos_left
      (Nat.zero_lt_of_lt hposition)))
  rw [← hcolumn, ← sourcePosition_flatRow states.size controls.size position.val]
  rfl

end Tensor

namespace Problem

theorem finite_of_firstNonFinite? {nonFinite? : β → Option NonFinite} {entries : Array β}
    {start : Nat} (hnone : firstNonFinite? nonFinite? entries start = none) (index : Nat)
    (hstart : start ≤ index) (hindex : index < entries.size) :
    nonFinite? entries[index] = none := by
  fun_induction firstNonFinite? nonFinite? entries start with
  | case1 start hlt what hwhat => simp at hnone
  | case2 start hlt hfinite ih =>
      by_cases hequal : index = start
      · subst hequal
        exact hfinite
      · exact ih hnone (by omega)
  | case3 start hge => omega

theorem exists_of_firstNonFinite? {nonFinite? : β → Option NonFinite} {entries : Array β}
    {start position : Nat} {what : NonFinite}
    (hsome : firstNonFinite? nonFinite? entries start = some (position, what)) :
    ∃ hposition : position < entries.size, nonFinite? entries[position] = some what := by
  fun_induction firstNonFinite? nonFinite? entries start with
  | case1 start hlt found hfound =>
      simp only [Option.some.injEq, Prod.mk.injEq] at hsome
      obtain ⟨rfl, rfl⟩ := hsome
      exact ⟨hlt, hfound⟩
  | case2 start hlt hfinite ih => exact ih hsome
  | case3 start hge => simp at hsome

/-- An array is accepted when it fits the shape and all its entries are finite; otherwise it is
rejected at a position of the shape, if it fits. -/
theorem acceptArray_agrees (nonFinite? : β → Option NonFinite) (convert : β → α)
    (shape : List Nat) (results : Tensor β) :
    Agrees (fun error => (results.entries? shape).isSome = true → error.1 < extent shape)
      ((acceptArray nonFinite? shape results : Except (Nat × Reason α) _).map (·.map convert))
      (((results.entries? shape).map (·.map (NonFinite.judge nonFinite? convert))).bind
        finiteEntries?) := by
  unfold acceptArray
  cases hexpanded : results.expand? shape with
  | none =>
      have hentries : results.entries? shape = none := by rw [Tensor.entries?, hexpanded]; rfl
      simp only [hentries]
      exact Agrees.of_error fun hsome => absurd hsome Bool.false_ne_true
  | some expanded =>
      have hsize := Tensor.size_of_expand? hexpanded
      simp only [Tensor.entries?_of_expand? hexpanded, Option.map_some, Option.bind_some]
      cases hfirst : firstNonFinite? nonFinite? expanded.data 0 with
      | none =>
          have hfinite := finite_of_firstNonFinite? hfirst
          have hall : finiteEntries? (Vector.map (NonFinite.judge nonFinite? convert)
              ⟨expanded.data, hsize⟩) = some (Vector.map convert ⟨expanded.data, hsize⟩) := by
            rw [finiteEntries?, ofFnM_eq_some_iff]
            intro index
            have hbound : index.val < expanded.data.size := by rw [hsize]; exact index.isLt
            have hindex := hfinite index (Nat.zero_le _) hbound
            simp [get_eq_getElem, NonFinite.judge, hindex, Except.toOption]
          rw [hall]
          simp [hsize, Except.map, Agrees]
      | some found =>
          obtain ⟨position, what⟩ := found
          obtain ⟨hposition, hwhat⟩ := exists_of_firstNonFinite? hfirst
          have hbound : position < extent shape := by rw [← hsize]; exact hposition
          have hnone : finiteEntries? (Vector.map (NonFinite.judge nonFinite? convert)
              ⟨expanded.data, hsize⟩) = none := by
            rw [finiteEntries?, ofFnM_eq_none_iff]
            refine ⟨⟨position, hbound⟩, ?_⟩
            simp [get_eq_getElem, NonFinite.judge, hwhat, Except.toOption]
          rw [hnone]
          exact Agrees.of_error fun _ => hbound

/-- At a position of a block a report finds the state and the control that stand there. -/
theorem reportAt_of_lt {states : Tensor α} (controls : Option (Tensor α)) {shape : List Nat}
    (hfits : states.fits shape = true) {position : Nat} (hposition : position < extent shape)
    (report : (state : α) → (control : Option α) → EvaluationError α) :
    ∃ state, states.entryAt? shape position = some state ∧
      reportAt states controls shape position report =
        report state (controls.bind (·.entryAt? shape position)) := by
  obtain ⟨state, hstate⟩ := Tensor.exists_entryAt? hfits hposition
  exact ⟨state, hstate, by simp only [reportAt, hstate, hposition, decide_true]⟩

theorem failureAt_isCallbackAt (role : Role) {states : Tensor α} (controls : Option (Tensor α))
    {time : Int} (htime : IsWritableTime time) {shape : List Nat}
    (hfits : states.fits shape = true) {position : Nat} (hposition : position < extent shape)
    (reason : Reason α) :
    (failureAt role states controls time shape position reason).IsCallbackAt time := by
  obtain ⟨state, _, hreport⟩ := reportAt_of_lt controls hfits hposition fun state control =>
    CallbackFailure.report ⟨role, state, control, time, reason⟩
  rw [failureAt, hreport]
  exact CallbackFailure.report_isCallbackAt htime

/-- A failure on a block of states and controls is reported with those of its position. -/
theorem failureAt_pair (role : Role) (states controls : Array α) {time : Int}
    (htime : IsWritableTime time) (position : Fin (extent [states.size, controls.size]))
    (reason : Reason α) :
    failureAt role (Tensor.column states) (some (Tensor.flatRow controls)) time
        [states.size, controls.size] position.val reason =
      .callback ⟨role, states[Stage.rowOf position], some controls[Stage.columnOf position], time,
        reason⟩ := by
  simp [failureAt, reportAt, Tensor.entryAt?_column, Tensor.entryAt?_flatRow,
    CallbackFailure.report_eq_callback htime]

variable [Number α]

/-- A value is accepted when it is an array of finite real numbers that fits the shape. -/
theorem acceptArrayValue_agrees (shape : List Nat) (value : Value) :
    match acceptArrayValue (α := α) shape value with
    | .error _ => (Reply.other value).results? (α := α) shape = none
    | .ok verdict =>
        Agrees (fun error => ((Reply.other value).results? (α := α) shape).isSome = true →
            error.1 < extent shape)
          verdict (((Reply.other value).results? shape).bind finiteEntries?) := by
  unfold acceptArrayValue
  cases hcomplex : value.isComplexArray with
  | error cause => simp [Reply.results?, hcomplex, bind, Except.bind]
  | ok isComplex =>
      cases isComplex with
      | true =>
          simp only [Reply.results?, hcomplex]
          exact Agrees.of_error fun hsome => absurd hsome Bool.false_ne_true
      | false =>
          cases htensor : value.toTensor with
          | error cause =>
              simp only [Reply.results?, hcomplex, htensor]
              rcases cause with _ | _ | cause
              · exact Agrees.of_error fun hsome => absurd hsome Bool.false_ne_true
              · exact Agrees.of_error fun hsome => absurd hsome Bool.false_ne_true
              · cases cause with
                | tooLarge => trivial
                | _ => exact Agrees.of_error fun hsome => absurd hsome Bool.false_ne_true
          | ok results =>
              simp only [Reply.results?, hcomplex, htensor, Option.isSome_map]
              exact acceptArray_agrees NonFinite.ofFloat? Number.ofFloat shape results

/-- Evaluation of a block gives the numbers of the reply when all of them are finite.  When the
reply holds numbers at all, a failure is one of the callback. -/
theorem evaluateBlock_agrees (problem : Problem α) (role : Role) {states : Tensor α}
    {controls : Option (Tensor α)} (time : Int) {shape : List Nat}
    (hstates : states.fits shape = true)
    (hcontrols : controls.any (!·.fits shape) = false) :
    Agrees (fun error => IsWritableTime time →
        ((problem.callOnBlock role states controls time).results? shape).isSome = true →
          error.IsCallbackAt time)
      (problem.evaluateBlock role states controls time shape)
      (((problem.callOnBlock role states controls time).results? shape).bind finiteEntries?) := by
  have hreported : ∀ {expected : Option (Vector α (extent shape))} {answers : Prop}
      {verdict : Except (Nat × Reason α) (Vector α (extent shape))},
      Agrees (fun error => answers → error.1 < extent shape) verdict expected →
      Agrees (fun error => IsWritableTime time → answers → error.IsCallbackAt time)
        (verdict.mapError fun error =>
          failureAt role states controls time shape error.1 error.2) expected := by
    intro expected answers verdict hverdict
    apply hverdict.mapError
    intro error hposition htime hanswers
    exact failureAt_isCallbackAt role controls htime hstates (hposition hanswers) error.2
  simp only [evaluateBlock, hstates, hcontrols, Bool.not_true, Bool.false_eq_true, if_false]
  cases problem.callOnBlock role states controls time with
  | raised exception =>
      simp only [Reply.results?, Option.bind_none]
      cases (exception.reason : Except Raised (Reason α)) <;>
        exact Agrees.of_error fun _ hsome => absurd hsome Bool.false_ne_true
  | number results =>
      have haccepted := hreported (acceptArray_agrees Number.nonFinite? id shape results)
      simp only [Reply.results?, Option.isSome_map]
      cases hverdict : acceptArray Number.nonFinite? shape results with
      | ok entries => simpa [hverdict, Except.map, Except.mapError] using haccepted
      | error error => simpa [hverdict, Except.map, Except.mapError] using haccepted
  | other value =>
      have haccepted := acceptArrayValue_agrees (α := α) shape value
      cases hvalue : acceptArrayValue (α := α) shape value with
      | error cause =>
          rw [hvalue] at haccepted
          simp only [hvalue, show (Reply.other value).results? (α := α) shape = none from haccepted]
          exact Agrees.of_error fun _ hsome => absurd hsome Bool.false_ne_true
      | ok verdict =>
          rw [hvalue] at haccepted
          have hverdict := hreported haccepted
          simp only [hvalue]
          cases verdict with
          | ok entries => exact hverdict
          | error error => exact hverdict

/-! ### Problems that act as a family of point results -/

namespace ActsAs

variable {problem : Problem α} {result : PointResult α} {states controls : Grid α} {horizon : Nat}

theorem evaluate_eq_ok_iff (hacts : problem.ActsAs result) (hscalar : problem.vectorized = false)
    {role : Role} {state : α} {control : Option α} {time : Int} {number : α} :
    problem.evaluate role state control time = .ok number ↔
      result.finite? role state control time = some number := by
  rw [(problem.evaluate_agrees role state control time).ok_iff,
    hacts.points hscalar role state control time]
  rfl

theorem evaluate_agrees (hacts : problem.ActsAs result) (hscalar : problem.vectorized = false)
    {role : Role} {state : α} {control : Option α} {time : Int}
    (hevaluates : Evaluates states controls horizon role state control time) :
    Agrees (result.Admits states controls horizon time)
      (problem.evaluate role state control time) (result.finite? role state control time) := by
  have hagrees := problem.evaluate_agrees role state control time
  rw [hacts.points hscalar role state control time] at hagrees
  apply hagrees.mono
  intro error hcallback hhorizon hanswers
  exact hcallback (hevaluates.isWritableTime hhorizon) (hanswers role state control time hevaluates)

/-- A block whose reply is made of point results, one for each position. -/
theorem block_agrees {role : Role} {blockStates : Tensor α} {blockControls : Option (Tensor α)}
    {time : Nat} (htime : time ≤ horizon) {shape : List Nat}
    (points : Fin (extent shape) → Option (Except NonFinite α))
    (hreply : (problem.callOnBlock role blockStates blockControls time).results? shape =
      Vector.ofFnM points)
    (hpoints : result.AnswersOn states controls horizon → ∀ position,
      (points position).isSome = true)
    (hstates : blockStates.fits shape = true)
    (hcontrols : blockControls.any (!·.fits shape) = false) :
    Agrees (result.Admits states controls horizon time)
      (problem.evaluateBlock role blockStates blockControls time shape)
      (Vector.ofFnM fun position => (points position).bind Except.toOption) := by
  have hagrees := problem.evaluateBlock_agrees role time hstates hcontrols
  have hfinite : (Vector.ofFnM points).bind finiteEntries? =
      Vector.ofFnM fun position => (points position).bind Except.toOption :=
    ofFnM_bind_ofFnM points fun _ => Except.toOption
  rw [hreply, hfinite] at hagrees
  apply hagrees.mono
  intro error hcallback hhorizon hanswers
  apply hcallback (hhorizon.of_le htime)
  rw [Option.isSome_iff_ne_none, ne_eq, ofFnM_eq_none_iff]
  rintro ⟨position, hnone⟩
  have hsome := hpoints hanswers position
  rw [hnone] at hsome
  exact Bool.false_ne_true hsome

/-- A block of states, each of them with all points of the grid of controls. -/
theorem evaluatePairs_agrees (hacts : problem.ActsAs result)
    (hvectorized : problem.vectorized = true) {role : Role} (hrole : role.takesControl = true)
    {block : Array α} (hblock : 0 < block.size) (hstates : ∀ state ∈ block, state ∈ states.points)
    {time : Nat} (htime : time < horizon) :
    Agrees (result.Admits states controls horizon time)
      (problem.evaluateBlock role (Tensor.column block) (some (Tensor.flatRow controls.points)) time
        [block.size, controls.size])
      (Vector.ofFnM fun position : Fin (extent [block.size, controls.size]) =>
        result.finite? role (Stage.stateAt block position)
          (some (controls.point (Stage.columnOf position))) time) := by
  apply block_agrees (Nat.le_of_lt htime) _
    (hacts.pairs hvectorized role block controls.points time hrole hblock controls.size_pos)
  · intro hanswers position
    exact hanswers _ _ _ _ (.pair hrole (hstates _ (Array.getElem_mem _)) (controls.point_mem _)
      htime)
  · exact Tensor.fits_column block controls.size
  · simp [Tensor.fits_flatRow block.size controls.points]

theorem evaluateEnds_agrees (hacts : problem.ActsAs result)
    (hvectorized : problem.vectorized = true) (states controls : Grid α) (horizon : Nat) :
    Agrees (result.Admits states controls horizon horizon)
      (problem.evaluateBlock .terminalCost (Tensor.row states.points) none horizon [states.size])
      (Vector.ofFnM fun position : Fin (extent [states.size]) =>
        result.finite? .terminalCost (states.point (placeOf position)) none horizon) := by
  apply block_agrees (Nat.le_refl horizon) _
    (hacts.ends hvectorized states.points horizon states.size_pos)
  · intro hanswers position
    exact hanswers _ _ _ _ (.ends (states.point_mem _))
  · exact Tensor.fits_row states.points
  · rfl

end ActsAs

/-- Evaluated point by point, a problem acts as what its own callbacks hand back. -/
theorem actsAs_of_scalar {problem : Problem α} (hscalar : problem.vectorized = false) :
    problem.ActsAs fun role state control time =>
      (problem.callAt role state control time).result? where
  points _ _ _ _ _ := rfl
  pairs hvectorized := by rw [hscalar] at hvectorized; exact absurd hvectorized Bool.false_ne_true
  ends hvectorized := by rw [hscalar] at hvectorized; exact absurd hvectorized Bool.false_ne_true

/-- What the callbacks of a problem have to say when they are called point by point. -/
def pointResult (problem : Problem α) : PointResult α :=
  fun role state control time => (problem.callAt role state control time).result?

theorem evaluate_eq_ok_iff (problem : Problem α) (role : Role) (state : α) (control : Option α)
    (time : Int) (result : α) :
    problem.evaluate role state control time = .ok result ↔
      problem.pointResult.finite? role state control time = some result :=
  (problem.evaluate_agrees role state control time).ok_iff result

/-- A problem acts as what its callbacks hand back point by point unless it is evaluated in blocks
and these hold something else. -/
theorem actsAs_pointResult {problem : Problem α}
    (helementwise : problem.vectorized = true → problem.ActsAs problem.pointResult) :
    problem.ActsAs problem.pointResult := by
  cases hvectorized : problem.vectorized with
  | false => exact actsAs_of_scalar hvectorized
  | true => exact helementwise hvectorized

/-- A problem acts as some family of point results unless it is evaluated in blocks. -/
theorem exists_actsAs {problem : Problem α}
    (helementwise : problem.vectorized = true → ∃ result, problem.ActsAs result) :
    ∃ result, problem.ActsAs result := by
  cases hvectorized : problem.vectorized with
  | false => exact ⟨_, actsAs_of_scalar hvectorized⟩
  | true => exact helementwise hvectorized

/-! ### Problems of total functions -/

/-- The point results of total functions. -/
def functionResult (dynamics stageCost : (time : Int) → α → α → α)
    (terminalCost : (time : Int) → α → α) : PointResult α
  | .dynamics, state, some control, time =>
      some (NonFinite.judge Number.nonFinite? id (dynamics time state control))
  | .stageCost, state, some control, time =>
      some (NonFinite.judge Number.nonFinite? id (stageCost time state control))
  | .terminalCost, state, none, time =>
      some (NonFinite.judge Number.nonFinite? id (terminalCost time state))
  | _, _, _, _ => none

theorem overBlock_results? (function : α → α → α) (states controls : Array α) :
    (overBlock function (Tensor.column states) (Tensor.flatRow controls)).results?
        [states.size, controls.size] =
      Vector.ofFnM fun position => some (NonFinite.judge Number.nonFinite? id
        (function states[Stage.rowOf position] controls[Stage.columnOf position])) := by
  obtain ⟨combined, hcombined, hshape, hentries⟩ :=
    Tensor.zipWith?_column_flatRow function states controls
  have hexpanded : combined.expand? [states.size, controls.size] = some combined := by
    rw [Tensor.expand?, if_pos hshape]
  rw [eq_comm, overBlock, hcombined, Reply.results?, Tensor.entries?_of_expand? hexpanded,
    Option.map_some, ofFnM_eq_some_iff]
  intro position
  have hentry := hentries position
  rw [Array.getElem?_eq_getElem (by rw [Tensor.size_of_expand? hexpanded]; exact position.isLt),
    Option.some.injEq] at hentry
  simp [get_eq_getElem, hentry]

/-- Total functions act as themselves, point by point and on every block. -/
theorem ofFunctions_actsAs (family : String) (vectorized : Bool)
    (dynamics stageCost : (time : Int) → α → α → α) (terminalCost : (time : Int) → α → α) :
    (ofFunctions family vectorized dynamics stageCost terminalCost).ActsAs
      (functionResult dynamics stageCost terminalCost) where
  points _ role state control time := by
    cases role <;> cases control <;> rfl
  pairs _ role states controls time hrole _ _ := by
    cases role with
    | dynamics => exact overBlock_results? (dynamics time) states controls
    | stageCost => exact overBlock_results? (stageCost time) states controls
    | terminalCost => exact absurd hrole Bool.false_ne_true
  ends _ states time _ := by
    have hexpanded : ((Tensor.row states).map (terminalCost time)).expand? [states.size] =
        some ((Tensor.row states).map (terminalCost time)) := by
      exact if_pos rfl
    rw [eq_comm]
    show _ = Reply.results? [states.size] (.number ((Tensor.row states).map (terminalCost time)))
    rw [Reply.results?, Tensor.entries?_of_expand? hexpanded, Option.map_some, ofFnM_eq_some_iff]
    intro position
    simp [get_eq_getElem, functionResult, Tensor.row, Tensor.map, placeOf]

theorem functionResult_alwaysAnswers (dynamics stageCost : (time : Int) → α → α → α)
    (terminalCost : (time : Int) → α → α) :
    (functionResult dynamics stageCost terminalCost).AlwaysAnswers := by
  intro role state control time harguments
  cases role <;> cases control <;> simp_all [functionResult, Role.takesControl]

end Problem

end BellmanGrid
