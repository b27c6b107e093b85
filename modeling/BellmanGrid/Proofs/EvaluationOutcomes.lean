import BellmanGrid.Proofs.OrderLaws
import BellmanGrid.Proofs.Outcomes
import BellmanGrid.Proofs.PointResults
import BellmanGrid.Proofs.Rounding

/-!
What checked evaluation can end with, whatever a callback does.

A result is finite.  A failure names the callback, the time and a point that was evaluated, unless
the callback handed back a value that escapes the checks, or raised an exception that cannot be
written.  Those values are described here by what they are, and not by the conversions that come
across them.  Besides, no failure can be reported at a time that has no text; no solve comes to such
a time.
-/

namespace BellmanGrid

variable {α β : Type}

/-! ### Values that escape the checks -/

namespace Value

/-- Values whose conversion at a point ends in an error of its own: an integer beyond the largest
double, or another value that holds an integer too long to be written. -/
inductive EscapesAtPoint : (value : Value) → (cause : ArrayError) → Prop
  | tooLarge {number : Int} (hlarge : integerLimit ≤ number.natAbs) :
      EscapesAtPoint (.integer number) (.entry .tooLarge)
  | unwritable {value : Value} (hother : ∀ number, value ≠ .integer number)
      (hlong : value.isWritable = false) : EscapesAtPoint value (.entry .unwritable)

/-- Values whose conversion on a block ends in an error of its own: lists without a common shape, or
rectangular ones of real numbers up to an integer beyond the largest double. -/
inductive EscapesOnBlock : (value : Value) → (cause : ArrayError) → Prop
  | shapeless {value : Value} {cause : ArrayError}
      (hshape : value.shape axisLimit = .error cause) : EscapesOnBlock value cause
  | tooLarge {value : Value} {before after : List Value} {number : Int}
      (hreal : value.isComplexArray = .ok false)
      (hentries : value.entries = before ++ .integer number :: after)
      (hbefore : ∀ entry ∈ before, ∃ real, entry.entryToReal = .ok real)
      (hlarge : integerLimit ≤ number.natAbs) : EscapesOnBlock value (.entry .tooLarge)

theorem realOfInteger_eq_tooLarge_iff {number : Int} :
    realOfInteger number = .error .tooLarge ↔ integerLimit ≤ number.natAbs := by
  rw [← nearestInt?_eq_none_iff, realOfInteger]
  cases nearestInt? number <;> simp

theorem realOfNumeral_ne_tooLarge (literal content : String) :
    realOfNumeral literal content ≠ .error .tooLarge := by
  rw [realOfNumeral]
  cases Numeral.float? content <;> simp

theorem toReal_eq_tooLarge_iff {value : Value} :
    value.toReal = .error .tooLarge ↔
      ∃ number, value = .integer number ∧ integerLimit ≤ number.natAbs := by
  cases value with
  | integer number => simp [toReal, realOfInteger_eq_tooLarge_iff]
  | text content => simp [toReal, realOfNumeral_ne_tooLarge]
  | bytes content => simp [toReal, realOfNumeral_ne_tooLarge]
  | _ => simp [toReal]

theorem eq_tooLarge_of_toReal_integer {number : Int} {cause : ConversionError}
    (hreal : (integer number).toReal = .error cause) : cause = .tooLarge := by
  rw [toReal, realOfInteger] at hreal
  split at hreal
  · cases hreal
  · exact (Except.error.inj hreal).symm

theorem entryToReal_eq_tooLarge_iff {value : Value} :
    value.entryToReal = .error .tooLarge ↔
      ∃ number, value = .integer number ∧ integerLimit ≤ number.natAbs := by
  rw [← toReal_eq_tooLarge_iff]
  cases value <;> simp [entryToReal, toReal]

/-- A single integer escapes on a block just as it does at a point. -/
theorem EscapesOnBlock.integer {number : Int} (hlarge : integerLimit ≤ number.natAbs) :
    EscapesOnBlock (.integer number) (.entry .tooLarge) := by
  have hshape : shape axisLimit (.integer number) = .ok [] := by
    simp [shape, findShape, ShapeSearch.entry, axisLimit]
  have hentries : entries (.integer number) = [] ++ .integer number :: [] := by
    simp [entries]
  have hreal : isComplexArray (.integer number) = .ok false := by
    rw [isComplexArray, hshape, hentries]
    exact congrArg Except.ok (Bool.and_false _)
  exact .tooLarge hreal hentries (fun _ hmem => absurd hmem List.not_mem_nil) hlarge

/-- What is not written is no single number. -/
theorem exists_toReal_eq_error {value : Value} (hother : ∀ number, value ≠ .integer number)
    (hlong : value.isWritable = false) :
    ∃ cause, value.toReal = .error cause ∧ cause ≠ .tooLarge := by
  cases value with
  | integer number => exact absurd rfl (hother number)
  | list items => exact ⟨_, rfl, nofun⟩
  | mapping entries => exact ⟨_, rfl, nofun⟩
  | tuple items => exact ⟨_, rfl, nofun⟩
  | set items => exact ⟨_, rfl, nofun⟩
  | _ => simp [isWritable] at hlong

theorem isComplexArray_eq_error_iff {value : Value} {cause : ArrayError} :
    value.isComplexArray = .error cause ↔ value.shape axisLimit = .error cause := by
  rw [isComplexArray]
  cases value.shape axisLimit with
  | error other =>
      show (Except.error other : Except ArrayError Bool) = .error cause ↔ _
      rw [Except.error.injEq, Except.error.injEq]
  | ok shape => exact iff_of_false nofun nofun

theorem exists_shape_of_isComplexArray {value : Value} {isComplex : Bool}
    (hcomplex : value.isComplexArray = .ok isComplex) :
    ∃ shape, value.shape axisLimit = .ok shape := by
  cases hshape : value.shape axisLimit with
  | error cause =>
      rw [isComplexArray_eq_error_iff.mpr hshape] at hcomplex
      cases hcomplex
  | ok shape => exact ⟨shape, rfl⟩

/-- Entries that are converted one after the other stop at an integer beyond the largest double just
when the first entry that is no number is one. -/
theorem toTensor_eq_tooLarge_iff {value : Value} {shape : List Nat}
    (hshape : value.shape axisLimit = .ok shape) :
    value.toTensor = .error (.entry .tooLarge) ↔
      ∃ before number after, value.entries = before ++ .integer number :: after ∧
        (∀ entry ∈ before, ∃ real, entry.entryToReal = .ok real) ∧
        integerLimit ≤ number.natAbs := by
  have hentries : value.toTensor = .error (.entry .tooLarge) ↔
      value.entries.mapM entryToReal = .error .tooLarge := by
    rw [toTensor, hshape]
    cases value.entries.mapM entryToReal with
    | error cause => simp [bind, Except.bind, Except.mapError]
    | ok numbers =>
        simp only [bind, Except.bind, Except.mapError, reduceCtorEq, iff_false]
        split <;> intro hfails <;> cases hfails
  rw [hentries]
  constructor
  · intro hfails
    obtain ⟨index, hindex, hentry, hbefore⟩ := mapM_eq_error hfails
    obtain ⟨number, hnumber, hlarge⟩ := entryToReal_eq_tooLarge_iff.mp hentry
    refine ⟨value.entries.take index, number, value.entries.drop (index + 1), ?_, ?_, hlarge⟩
    · rw [← hnumber, List.getElem_cons_drop, List.take_append_drop]
    · intro entry hmem
      obtain ⟨place, hplace, rfl⟩ := List.mem_iff_getElem.mp hmem
      rw [List.getElem_take]
      exact hbefore place (by rw [List.length_take] at hplace; omega)
  · rintro ⟨before, number, after, hsplit, hbefore, hlarge⟩
    rw [hsplit]
    exact mapM_append_cons_eq_error hbefore
      (entryToReal_eq_tooLarge_iff.mpr ⟨number, rfl, hlarge⟩)

end Value

/-- Replies that end an evaluation with an error of their own: values that escape the checks, and
exceptions that cannot be written. -/
inductive Reply.Escapes (valueEscapes : (value : Value) → (cause : ArrayError) → Prop) :
    (reply : Reply β) → (error : EvaluationError α) → Prop
  | value {value : Value} {cause : ArrayError} (hescapes : valueEscapes value cause) :
      Escapes valueEscapes (.other value) (.uncaught cause)
  | exception (kind : String) (cause : Raised) :
      Escapes valueEscapes (.raised (.unwritten kind cause)) (.unwritten cause)

namespace Reply

variable {valueEscapes : (value : Value) → (cause : ArrayError) → Prop} {error : EvaluationError α}

@[simp]
theorem not_escapes_number {result : β} :
    ¬ (number result : Reply β).Escapes valueEscapes error :=
  nofun

@[simp]
theorem not_escapes_raised_written {kind text : String} :
    ¬ (raised (.written kind text) : Reply β).Escapes valueEscapes error :=
  nofun

@[simp]
theorem escapes_raised_unwritten_iff {kind : String} {cause : Raised} :
    (raised (.unwritten kind cause) : Reply β).Escapes valueEscapes error ↔
      error = .unwritten cause := by
  constructor
  · rintro ⟨⟩
    rfl
  · rintro rfl
    exact .exception kind cause

@[simp]
theorem escapes_other_iff {value : Value} :
    (other value : Reply β).Escapes valueEscapes error ↔
      ∃ cause, error = .uncaught cause ∧ valueEscapes value cause := by
  constructor
  · rintro ⟨hescapes⟩
    exact ⟨_, rfl, hescapes⟩
  · rintro ⟨cause, rfl, hescapes⟩
    exact .value hescapes

theorem escapes_uncaught_iff {reply : Reply β} {cause : ArrayError} :
    reply.Escapes valueEscapes (.uncaught cause : EvaluationError α) ↔
      ∃ value, reply = .other value ∧ valueEscapes value cause := by
  cases reply with
  | raised exception => cases exception <;> simp
  | number result => simp
  | other value => simp

theorem escapes_unwritten_iff {reply : Reply β} {cause : Raised} :
    reply.Escapes valueEscapes (.unwritten cause : EvaluationError α) ↔
      ∃ kind, reply = .raised (.unwritten kind cause) := by
  cases reply with
  | raised exception => cases exception <;> simp [eq_comm]
  | number result => simp
  | other value => simp

end Reply

namespace Problem

/-! ### Failures -/

/-- How evaluation at a point may fail. -/
inductive FailsAt (problem : Problem α) (role : Role) (state : α) (control : Option α)
    (time : Int) : (error : EvaluationError α) → Prop
  | callback (htime : IsWritableTime time) (reason : Reason α) :
      FailsAt problem role state control time (.callback ⟨role, state, control, time, reason⟩)
  | escape {error : EvaluationError α}
      (hescapes : (problem.callAt role state control time).Escapes Value.EscapesAtPoint error) :
      FailsAt problem role state control time error
  | unwritable (htime : ¬ IsWritableTime time) :
      FailsAt problem role state control time (.uncaught (.entry .unwritable))

/-- How evaluation of a block may fail.  The states and controls must fit its shape, and a failure
of the callback is reported at one of its positions, if it has any. -/
inductive FailsOnBlock (problem : Problem α) (role : Role) (states : Tensor α)
    (controls : Option (Tensor α)) (time : Int) (shape : List Nat) :
    (error : EvaluationError α) → Prop
  | misfit {source : List Nat}
      (hmisfit : states.fits shape = false ∨ controls.any (!·.fits shape) = true) :
      FailsOnBlock problem role states controls time shape (.misfit source shape)
  | callback (htime : IsWritableTime time) {position : Nat} {state : α}
      (hposition : position < extent shape)
      (hstate : states.entryAt? shape position = some state) (reason : Reason α) :
      FailsOnBlock problem role states controls time shape
        (.callback ⟨role, state, controls.bind (·.entryAt? shape position), time, reason⟩)
  | noPoint {cause : IndexError} (hempty : extent shape = 0) :
      FailsOnBlock problem role states controls time shape (.noPoint cause)
  | escape {error : EvaluationError α}
      (hescapes :
        (problem.callOnBlock role states controls time).Escapes Value.EscapesOnBlock error) :
      FailsOnBlock problem role states controls time shape error
  | unwritable (htime : ¬ IsWritableTime time) :
      FailsOnBlock problem role states controls time shape (.uncaught (.entry .unwritable))

theorem failsAt_report (problem : Problem α) (role : Role) (state : α) (control : Option α)
    (time : Int) (reason : Reason α) :
    problem.FailsAt role state control time
      (CallbackFailure.report ⟨role, state, control, time, reason⟩) := by
  by_cases htime : IsWritableTime time
  · rw [CallbackFailure.report_eq_callback htime]
    exact .callback htime reason
  · rw [CallbackFailure.report_eq_uncaught htime]
    exact .unwritable htime

theorem reportAt_of_empty (states : Tensor α) (controls : Option (Tensor α)) {shape : List Nat}
    (hempty : extent shape = 0) (position : Nat)
    (report : (state : α) → (control : Option α) → EvaluationError α) :
    reportAt states controls shape position report = .noPoint ⟨0, shape.findIdx (· == 0), 0⟩ := by
  simp only [reportAt, hempty, Nat.not_lt_zero, decide_false]
  cases states.entryAt? shape position <;> rfl

theorem report_ne_unwritten {failure : CallbackFailure α} {cause : Raised} :
    failure.report ≠ .unwritten cause := by
  obtain ⟨role, state, control, time, reason⟩ := failure
  by_cases htime : IsWritableTime time
  · simp [CallbackFailure.report_eq_callback htime]
  · simp [CallbackFailure.report_eq_uncaught htime]

/-- What a report at a position of a block is not, as long as it is neither one without a point nor
made there. -/
theorem reportAt_ne {states : Tensor α} {controls : Option (Tensor α)} {shape : List Nat}
    {position : Nat} {report : (state : α) → (control : Option α) → EvaluationError α}
    {error : EvaluationError α} (hpoint : ∀ cause, error ≠ .noPoint cause)
    (hreport : ∀ state control, report state control ≠ error) :
    reportAt states controls shape position report ≠ error := by
  rw [reportAt]
  split
  · exact hreport _ _
  · exact (hpoint _).symm

theorem failsOnBlock_failureAt (problem : Problem α) (role : Role) {states : Tensor α}
    (controls : Option (Tensor α)) (time : Int) {shape : List Nat}
    (hfits : states.fits shape = true) {position : Nat}
    (hposition : position < extent shape ∨ position = 0) (reason : Reason α) :
    problem.FailsOnBlock role states controls time shape
      (failureAt role states controls time shape position reason) := by
  by_cases hinside : position < extent shape
  · obtain ⟨state, hstate, hreport⟩ := reportAt_of_lt controls hfits hinside
      fun state control => CallbackFailure.report ⟨role, state, control, time, reason⟩
    rw [failureAt, hreport]
    by_cases htime : IsWritableTime time
    · rw [CallbackFailure.report_eq_callback htime]
      exact .callback htime hinside hstate reason
    · rw [CallbackFailure.report_eq_uncaught htime]
      exact .unwritable htime
  · have hempty : extent shape = 0 := by omega
    rw [failureAt, reportAt_of_empty states controls hempty]
    exact .noPoint hempty

/-- An exception that cannot be written is told as the one that writing it ends with, unless there
is no point to look up before. -/
theorem failsOnBlock_unwritten (problem : Problem α) (role : Role) {states : Tensor α}
    {controls : Option (Tensor α)} {time : Int} {shape : List Nat}
    (hfits : states.fits shape = true) {kind : String} {cause : Raised}
    (hreply : problem.callOnBlock role states controls time = .raised (.unwritten kind cause)) :
    problem.FailsOnBlock role states controls time shape
      (reportAt states controls shape 0 fun _ _ => .unwritten cause) := by
  rcases Nat.eq_zero_or_pos (extent shape) with hempty | hpoints
  · rw [reportAt_of_empty states controls hempty]
    exact .noPoint hempty
  · obtain ⟨_, _, hreport⟩ := reportAt_of_lt controls hfits hpoints
      fun _ _ => (.unwritten cause : EvaluationError α)
    rw [hreport]
    exact .escape (hreply ▸ .exception kind cause)

/-- An accepted array has finite entries; a rejected one is rejected at one of its positions, or at
the first one. -/
theorem acceptArray_ensures (nonFinite? : β → Option NonFinite) (shape : List Nat)
    (results : Tensor β) :
    Ensures (fun entries : Vector β (extent shape) =>
        ∀ position, nonFinite? (entries.get position) = none)
      (fun error : Nat × Reason α => error.1 < extent shape ∨ error.1 = 0)
      (acceptArray nonFinite? shape results) := by
  rw [acceptArray]
  split
  · exact Or.inr rfl
  · next expanded hexpanded =>
      have hsize := Tensor.size_of_expand? hexpanded
      split
      · next position what hfirst =>
          obtain ⟨hposition, _⟩ := exists_of_firstNonFinite? hfirst
          exact Or.inl (hsize ▸ hposition)
      · next hfinite =>
          rw [dif_pos hsize]
          intro position
          have hposition : position.val < expanded.data.size := hsize.symm ▸ position.isLt
          exact finite_of_firstNonFinite? hfinite position (Nat.zero_le _) hposition

variable [Number α]

theorem acceptValue_eq_error_iff {value : Value} {cause : ArrayError} :
    acceptValue (α := α) value = .error cause ↔ value.EscapesAtPoint cause := by
  constructor
  · intro hfails
    rw [acceptValue] at hfails
    split at hfails
    · next hlarge =>
        obtain rfl := Except.error.inj hfails
        obtain ⟨number, rfl, hnumber⟩ := Value.toReal_eq_tooLarge_iff.mp hlarge
        exact .tooLarge hnumber
    · next other hother hreal =>
        split at hfails
        · cases hfails
        · next hlong =>
            obtain rfl := Except.error.inj hfails
            refine .unwritable ?_ (Bool.eq_false_iff.mpr hlong)
            rintro number rfl
            exact hother (Value.eq_tooLarge_of_toReal_integer hreal)
    · split at hfails <;> cases hfails
  · intro hescapes
    cases hescapes with
    | tooLarge hlarge =>
        rw [acceptValue, Value.toReal_eq_tooLarge_iff.mpr ⟨_, rfl, hlarge⟩]
    | unwritable hother hlong =>
        obtain ⟨cause, hreal, hcause⟩ := Value.exists_toReal_eq_error hother hlong
        rw [acceptValue, hreal]
        simp [hlong]

theorem acceptArrayValue_eq_error_iff {shape : List Nat} {value : Value} {cause : ArrayError} :
    acceptArrayValue (α := α) shape value = .error cause ↔ value.EscapesOnBlock cause := by
  constructor
  · intro hfails
    rw [acceptArrayValue] at hfails
    cases hcomplex : value.isComplexArray with
    | error other =>
        rw [hcomplex] at hfails
        obtain rfl := Except.error.inj hfails
        exact .shapeless (Value.isComplexArray_eq_error_iff.mp hcomplex)
    | ok isComplex =>
        obtain ⟨axes, haxes⟩ := Value.exists_shape_of_isComplexArray hcomplex
        cases isComplex with
        | true =>
            rw [hcomplex] at hfails
            cases hfails
        | false =>
            rw [hcomplex] at hfails
            simp only [bind, Except.bind, Bool.false_eq_true, if_false] at hfails
            split at hfails
            · next hlarge =>
                obtain rfl := Except.error.inj hfails
                obtain ⟨_, _, _, hentries, hbefore, hnumber⟩ :=
                  (Value.toTensor_eq_tooLarge_iff haxes).mp hlarge
                exact .tooLarge hcomplex hentries hbefore hnumber
            · cases hfails
            · cases hfails
  · intro hescapes
    cases hescapes with
    | shapeless hshape =>
        rw [acceptArrayValue, Value.isComplexArray_eq_error_iff.mpr hshape]
        rfl
    | tooLarge hreal hentries hbefore hlarge =>
        obtain ⟨axes, haxes⟩ := Value.exists_shape_of_isComplexArray hreal
        have htensor := (Value.toTensor_eq_tooLarge_iff haxes).mpr
          ⟨_, _, _, hentries, hbefore, hlarge⟩
        rw [acceptArrayValue, hreal]
        simp only [htensor, bind, Except.bind, Bool.false_eq_true, if_false]
        rfl

/-! ### Evaluation at a point -/

theorem isFinite_of_nonFinite? {number : α} (hfinite : Number.nonFinite? number = none) :
    Number.isFinite number = true := by
  rw [Number.isFinite, hfinite]
  rfl

theorem finite_of_acceptNumber {result number : α} (haccepted : acceptNumber result = .ok number) :
    Number.isFinite number = true := by
  rw [acceptNumber] at haccepted
  split at haccepted
  · next hfinite =>
      obtain rfl := Except.ok.inj haccepted
      exact isFinite_of_nonFinite? hfinite
  · cases haccepted

theorem finite_of_acceptValue [LawfulConversion α] {value : Value} {number : α}
    (haccepted : acceptValue value = .ok (.ok number)) : Number.isFinite number = true := by
  rw [acceptValue] at haccepted
  split at haccepted
  · cases haccepted
  · split at haccepted <;> cases haccepted
  · split at haccepted
    · next hfinite =>
        obtain rfl := Except.ok.inj (Except.ok.inj haccepted)
        exact LawfulConversion.finite_ofFloat _ hfinite
    · cases haccepted

/-- Evaluation at a point gives a finite number or fails there. -/
theorem evaluate_ensures [LawfulConversion α] (problem : Problem α) (role : Role) (state : α)
    (control : Option α) (time : Int) :
    Ensures (fun number => Number.isFinite number = true)
      (problem.FailsAt role state control time) (problem.evaluate role state control time) := by
  have hreport := problem.failsAt_report role state control time
  unfold evaluate
  cases hreply : problem.callAt role state control time with
  | raised exception =>
      cases exception with
      | written kind text => exact hreport (.raised kind text)
      | unwritten kind cause => exact .escape (hreply ▸ .exception kind cause)
  | number result =>
      simp only
      cases hresult : acceptNumber result with
      | ok number => exact finite_of_acceptNumber hresult
      | error reason => exact hreport reason
  | other value =>
      simp only
      cases hvalue : acceptValue (α := α) value with
      | error cause => exact .escape (hreply ▸ .value (acceptValue_eq_error_iff.mp hvalue))
      | ok verdict =>
          cases verdict with
          | ok number => exact finite_of_acceptValue hvalue
          | error reason => exact hreport reason

/-- An error that is no report shows at a point just when the reply there ends the evaluation with
it. -/
theorem evaluate_eq_error_iff_escapes (problem : Problem α) {role : Role} {state : α}
    {control : Option α} {time : Int} {error : EvaluationError α}
    (hreport : ∀ reason, CallbackFailure.report ⟨role, state, control, time, reason⟩ ≠ error) :
    problem.evaluate role state control time = .error error ↔
      (problem.callAt role state control time).Escapes Value.EscapesAtPoint error := by
  unfold evaluate
  cases problem.callAt role state control time with
  | raised exception =>
      cases exception with
      | written kind text => simp [Raised.reason, hreport]
      | unwritten kind cause => simp [Raised.reason, eq_comm]
  | number result =>
      cases hresult : acceptNumber result <;> simp [hresult, hreport]
  | other value =>
      simp only [Reply.escapes_other_iff, ← acceptValue_eq_error_iff (α := α)]
      cases acceptValue (α := α) value with
      | error found => simp [eq_comm]
      | ok verdict => cases verdict <;> simp [hreport]

/-- An error of a conversion shows at a point just when the value handed back there escapes. -/
theorem evaluate_eq_uncaught_iff (problem : Problem α) (role : Role) (state : α)
    (control : Option α) {time : Int} (htime : IsWritableTime time) (cause : ArrayError) :
    problem.evaluate role state control time = .error (.uncaught cause) ↔
      ∃ value, problem.callAt role state control time = .other value ∧
        value.EscapesAtPoint cause := by
  rw [problem.evaluate_eq_error_iff_escapes, Reply.escapes_uncaught_iff]
  simp [CallbackFailure.report_eq_callback htime]

/-- The exception that writing another one ends with shows at a point just when that one is raised
there. -/
theorem evaluate_eq_unwritten_iff (problem : Problem α) (role : Role) (state : α)
    (control : Option α) (time : Int) (cause : Raised) :
    problem.evaluate role state control time = .error (.unwritten cause) ↔
      ∃ kind, problem.callAt role state control time = .raised (.unwritten kind cause) := by
  rw [problem.evaluate_eq_error_iff_escapes fun _ => report_ne_unwritten,
    Reply.escapes_unwritten_iff]

/-- A reply at a point that ends the evaluation with an error of its own. -/
theorem evaluate_of_escapes {problem : Problem α} {role : Role} {state : α} {control : Option α}
    {time : Int} (htime : IsWritableTime time) {error : EvaluationError α}
    (hescapes : (problem.callAt role state control time).Escapes Value.EscapesAtPoint error) :
    problem.evaluate role state control time = .error error := by
  generalize hreply : problem.callAt role state control time = reply at hescapes
  cases hescapes with
  | value hvalue =>
      exact (problem.evaluate_eq_uncaught_iff _ _ _ htime _).mpr ⟨_, hreply, hvalue⟩
  | exception kind cause =>
      exact (problem.evaluate_eq_unwritten_iff _ _ _ _ _).mpr ⟨kind, hreply⟩

/-! ### Evaluation of a block -/

theorem acceptArrayValue_ensures [LawfulConversion α] {shape : List Nat} {value : Value}
    {verdict : Except (Nat × Reason α) (Vector α (extent shape))}
    (haccepted : acceptArrayValue shape value = .ok verdict) :
    Ensures (fun entries => ∀ position, Number.isFinite (entries.get position) = true)
      (fun error => error.1 < extent shape ∨ error.1 = 0) verdict := by
  rw [acceptArrayValue] at haccepted
  cases hcomplex : value.isComplexArray with
  | error cause =>
      rw [hcomplex] at haccepted
      cases haccepted
  | ok isComplex =>
      rw [hcomplex] at haccepted
      cases isComplex with
      | true =>
          obtain rfl := Except.ok.inj haccepted
          exact Or.inr rfl
      | false =>
          simp only [bind, Except.bind, Bool.false_eq_true, if_false] at haccepted
          split at haccepted
          · cases haccepted
          · obtain rfl := Except.ok.inj haccepted
            exact Or.inr rfl
          · next results _ =>
              obtain rfl := Except.ok.inj haccepted
              apply (acceptArray_ensures _ shape results).map
              intro entries hfinite position
              rw [get_map]
              exact LawfulConversion.finite_ofFloat _ (hfinite position)

/-- Evaluation of a block gives finite numbers or fails there. -/
theorem evaluateBlock_ensures [LawfulConversion α] (problem : Problem α) (role : Role)
    (states : Tensor α) (controls : Option (Tensor α)) (time : Int) (shape : List Nat) :
    Ensures (fun entries : Vector α (extent shape) =>
        ∀ position, Number.isFinite (entries.get position) = true)
      (problem.FailsOnBlock role states controls time shape)
      (problem.evaluateBlock role states controls time shape) := by
  unfold evaluateBlock
  simp only
  split
  · next hmisfit => exact .misfit (Or.inl (by simpa using hmisfit))
  · next hfits =>
      have hstates : states.fits shape = true := by simpa using hfits
      split
      · next hmisfit => exact .misfit (Or.inr hmisfit)
      · cases hreply : problem.callOnBlock role states controls time with
        | raised exception =>
            cases exception with
            | written kind text => exact failsOnBlock_failureAt _ _ _ _ hstates (Or.inr rfl) _
            | unwritten kind cause => exact problem.failsOnBlock_unwritten role hstates hreply
        | number results =>
            have hresults := acceptArray_ensures (α := α) Number.nonFinite? shape results
            simp only
            cases hverdict : acceptArray (α := α) Number.nonFinite? shape results with
            | ok entries =>
                intro position
                exact isFinite_of_nonFinite? (hresults.good_of_ok hverdict position)
            | error error =>
                exact failsOnBlock_failureAt _ _ _ _ hstates
                  (hresults.admitted_of_error hverdict) _
        | other value =>
            simp only
            cases hvalue : acceptArrayValue (α := α) shape value with
            | error cause =>
                exact .escape (hreply ▸ .value (acceptArrayValue_eq_error_iff.mp hvalue))
            | ok verdict =>
                have hverdict := acceptArrayValue_ensures hvalue
                cases verdict with
                | ok entries => exact hverdict
                | error error => exact failsOnBlock_failureAt _ _ _ _ hstates hverdict _

/-- An error that is no report, and of those that the reply decides, shows on a block just when
states and controls fit the shape and the reply ends the evaluation with it.  Before an exception is
written a point is looked up, and there must be one. -/
theorem evaluateBlock_eq_error_iff_escapes (problem : Problem α) {role : Role} {states : Tensor α}
    {controls : Option (Tensor α)} {time : Int} {shape : List Nat} {error : EvaluationError α}
    (hmisfit : ∀ source, error ≠ .misfit source shape) (hpoint : ∀ cause, error ≠ .noPoint cause)
    (hreport : ∀ state control reason,
      CallbackFailure.report ⟨role, state, control, time, reason⟩ ≠ error) :
    problem.evaluateBlock role states controls time shape = .error error ↔
      states.fits shape = true ∧ controls.any (!·.fits shape) = false ∧
        (problem.callOnBlock role states controls time).Escapes Value.EscapesOnBlock error ∧
        (extent shape = 0 → ∃ cause, error = .uncaught cause) := by
  have hreported : ∀ position reason,
      failureAt role states controls time shape position reason ≠ error :=
    fun _ _ => reportAt_ne hpoint fun _ _ => hreport _ _ _
  rw [evaluateBlock]
  cases hstates : states.fits shape with
  | false => simp [(hmisfit _).symm]
  | true =>
      cases hcontrols : controls.any (!·.fits shape) with
      | true => simp [(hmisfit _).symm]
      | false =>
          simp only [Bool.not_true, Bool.false_eq_true, if_false, true_and]
          cases problem.callOnBlock role states controls time with
          | raised exception =>
              cases exception with
              | written kind text => simp [Raised.reason, hreported]
              | unwritten kind found =>
                  simp only [Raised.reason, Except.error.injEq, Reply.escapes_raised_unwritten_iff]
                  rcases Nat.eq_zero_or_pos (extent shape) with hempty | hpoints
                  · rw [reportAt_of_empty states controls hempty]
                    refine iff_of_false (hpoint _).symm ?_
                    rintro ⟨rfl, hconverted⟩
                    obtain ⟨_, hcause⟩ := hconverted hempty
                    cases hcause
                  · obtain ⟨_, _, hwritten⟩ := reportAt_of_lt controls hstates hpoints
                      fun _ _ => (.unwritten found : EvaluationError α)
                    simp [hwritten, hpoints.ne', eq_comm]
          | number results =>
              simp only [Reply.not_escapes_number, false_and, iff_false]
              cases acceptArray (α := α) Number.nonFinite? shape results <;> simp [hreported]
          | other value =>
              simp only [Reply.escapes_other_iff, ← @acceptArrayValue_eq_error_iff α _ shape]
              cases acceptArrayValue (α := α) shape value with
              | error found =>
                  constructor
                  · intro hequal
                    obtain rfl := Except.error.inj hequal
                    exact ⟨⟨found, rfl, rfl⟩, fun _ => ⟨found, rfl⟩⟩
                  · rintro ⟨⟨cause, rfl, hfound⟩, _⟩
                    rw [Except.error.inj hfound]
              | ok verdict => cases verdict <;> simp [hreported]

/-- An error of a conversion shows on a block just when states and controls fit the shape and the
value handed back for them escapes. -/
theorem evaluateBlock_eq_uncaught_iff (problem : Problem α) (role : Role) (states : Tensor α)
    (controls : Option (Tensor α)) {time : Int} (htime : IsWritableTime time) (shape : List Nat)
    (cause : ArrayError) :
    problem.evaluateBlock role states controls time shape = .error (.uncaught cause) ↔
      states.fits shape = true ∧ controls.any (!·.fits shape) = false ∧
        ∃ value, problem.callOnBlock role states controls time = .other value ∧
          value.EscapesOnBlock cause := by
  rw [problem.evaluateBlock_eq_error_iff_escapes (by simp) (by simp), Reply.escapes_uncaught_iff]
  · simp
  · simp [CallbackFailure.report_eq_callback htime]

/-- The exception that writing another one ends with shows on a block just when states and controls
fit the shape, there is a point, and that one is raised. -/
theorem evaluateBlock_eq_unwritten_iff (problem : Problem α) (role : Role) (states : Tensor α)
    (controls : Option (Tensor α)) (time : Int) (shape : List Nat) (cause : Raised) :
    problem.evaluateBlock role states controls time shape = .error (.unwritten cause) ↔
      states.fits shape = true ∧ controls.any (!·.fits shape) = false ∧ 0 < extent shape ∧
        ∃ kind, problem.callOnBlock role states controls time =
          .raised (.unwritten kind cause) := by
  rw [problem.evaluateBlock_eq_error_iff_escapes (by simp) (by simp)
    fun _ _ _ => report_ne_unwritten, Reply.escapes_unwritten_iff]
  simp [Nat.pos_iff_ne_zero, and_comm]

/-- A reply on a block with points that ends the evaluation with an error of its own. -/
theorem evaluateBlock_of_escapes {problem : Problem α} {role : Role} {states : Tensor α}
    {controls : Option (Tensor α)} {time : Int} (htime : IsWritableTime time) {shape : List Nat}
    (hstates : states.fits shape = true) (hcontrols : controls.any (!·.fits shape) = false)
    (hpoints : 0 < extent shape) {error : EvaluationError α}
    (hescapes :
      (problem.callOnBlock role states controls time).Escapes Value.EscapesOnBlock error) :
    problem.evaluateBlock role states controls time shape = .error error := by
  generalize hreply : problem.callOnBlock role states controls time = reply at hescapes
  cases hescapes with
  | value hvalue =>
      exact (problem.evaluateBlock_eq_uncaught_iff _ _ _ htime _ _).mpr
        ⟨hstates, hcontrols, _, hreply, hvalue⟩
  | exception kind cause =>
      exact (problem.evaluateBlock_eq_unwritten_iff _ _ _ _ _ _).mpr
        ⟨hstates, hcontrols, hpoints, kind, hreply⟩

end Problem

end BellmanGrid
