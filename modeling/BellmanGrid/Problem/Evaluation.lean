import BellmanGrid.Index
import BellmanGrid.Problem.Basic
import BellmanGrid.Storage

/-!
Checked evaluation of callbacks.

A result is accepted only when it is a finite real number, or an array of them.  Every other outcome
becomes a failure that names the callback, the point and the reason.  Some outcomes are no failures
of this form.  An integer beyond the largest number is passed on as it is, and so are, on a block,
lists that are not rectangular.  The others have a text that cannot be written: an exception that
fails to give its own, at a point a value that is no number and holds too long an integer, and a
time that is one.

Only the arrays that a caller asks for by their sizes are limited: tables, ranges, and the shape of
a block that is evaluated by itself.  The arrays that come and go while a block is worked on are
taken to fit in memory.
-/

namespace BellmanGrid

/-- Why the result of a callback is not accepted. -/
inductive Reason (α : Type) where
  | raised (kind text : String)
  | notNumeric (value : Value)
  | notFinite (result : NonFinite)
  | complexValues
  | notRealArray (shape : List Nat)
  /-- the sum of a stage cost and the next cost-to-go is no finite number -/
  | overflow (stage : α) (next : Option α)

/-- The reason that an exception is, or what ends the attempt to write it. -/
def Raised.reason {α : Type} : Raised → Except Raised (Reason α)
  | written kind text => .ok (.raised kind text)
  | unwritten _ cause => .error cause

/-- A callback whose result is not accepted, and where it was called. -/
structure CallbackFailure (α : Type) where
  role : Role
  state : α
  control : Option α
  time : Int
  reason : Reason α

/-- Why an evaluation has no result. -/
inductive EvaluationError (α : Type) where
  | callback (failure : CallbackFailure α)
  /-- a result that cannot be looked at as numbers at all, or that no text can be written about -/
  | uncaught (cause : ArrayError)
  /-- an exception that could not be written, with the one that this has ended in -/
  | unwritten (cause : Raised)
  /-- states or controls that cannot be repeated to the shape of the block -/
  | misfit (source target : List Nat)
  /-- a block with an extent below zero -/
  | negativeExtent
  /-- a block that cannot be stored -/
  | storage (cause : Storage.StorageError)
  /-- a failure on a block without points -/
  | noPoint (cause : IndexError)

def Reason.text {α : Type} (quantityText : α → String) : Reason α → String
  | raised kind text => s!"raised {kind}: {text}"
  | notNumeric value => s!"returned non-numeric value {value.literal}"
  | notFinite result => s!"returned non-finite value {result.text}"
  | complexValues => "returned complex values"
  | notRealArray shape => s!"returned a value that is not a real array of shape {shapeText shape}"
  | overflow stage next =>
      let nextText := (next.map quantityText).getD NonFinite.notANumber.text
      s!"candidate cost overflowed ({quantityText stage} + {nextText})"

def CallbackFailure.text {α : Type} (quantityText : α → String) (failure : CallbackFailure α) :
    String :=
  let control := match failure.control with
    | some control => s!", u={quantityText control}"
    | none => ""
  s!"{failure.role.text} failed at (x={quantityText failure.state}{control}, k={failure.time}): " ++
    failure.reason.text quantityText

/-- The error that a failure is reported by.  Its text has the time in it, so where the time cannot
be written that is the error. -/
def CallbackFailure.report {α : Type} (failure : CallbackFailure α) : EvaluationError α :=
  if (Value.integer failure.time).isWritable then .callback failure
  else .uncaught (.entry .unwritable)

section Report

variable {α : Type} {role : Role} {state : α} {control : Option α} {time : Int} {reason : Reason α}

theorem CallbackFailure.report_eq_callback (htime : (Value.integer time).isWritable = true) :
    report ⟨role, state, control, time, reason⟩ = .callback ⟨role, state, control, time, reason⟩ :=
  if_pos htime

theorem CallbackFailure.report_eq_uncaught (htime : ¬ (Value.integer time).isWritable = true) :
    report ⟨role, state, control, time, reason⟩ = .uncaught (.entry .unwritable) :=
  if_neg htime

end Report

-- Unification must not open a report: it would compute the first time that has no text.
attribute [irreducible] CallbackFailure.report

def EvaluationError.errorKind {α : Type} : EvaluationError α → FailureKind
  | callback _ => .callback
  | uncaught cause => kind cause
  | unwritten cause => .named cause.kind
  | misfit _ _ => .value
  | negativeExtent => .value
  | storage cause => kind cause
  | noPoint cause => kind cause

def EvaluationError.errorText {α : Type} (quantityText : α → String) : EvaluationError α → String
  | callback failure => failure.text quantityText
  | uncaught cause => message cause
  | unwritten cause => cause.text
  | misfit source target =>
      if target.isEmpty then "cannot broadcast a non-scalar to a scalar array"
      else if target.length < source.length then
        "input operand has more dimensions than allowed by the axis remapping"
      else
        "operands could not be broadcast together with remapped shapes [original->remapped]: " ++
          s!"{denseShapeText source}  and requested shape {denseShapeText target}"
  | negativeExtent => "all elements of broadcast shape must be non-negative"
  | storage cause => message cause
  | noPoint cause => message cause

instance : Reportable (EvaluationError Float) where
  kind := EvaluationError.errorKind
  message := EvaluationError.errorText Decimal.text

instance : Reportable (EvaluationError Value) where
  kind := EvaluationError.errorKind
  message := EvaluationError.errorText Value.literal

namespace Problem

variable {α : Type} [Number α]

/-- Accepts a quantity that is a finite number. -/
@[inline]
def acceptNumber (result : α) : Except (Reason α) α :=
  match Number.nonFinite? result with
  | none => .ok result
  | some what => .error (.notFinite what)

/-- Accepts a value that is a finite real number; the outer error is one that is passed on. -/
def acceptValue (value : Value) : Except ArrayError (Except (Reason α) α) :=
  match value.toReal with
  | .error .tooLarge => .error (.entry .tooLarge)
  | .error _ =>
      if value.isWritable then .ok (.error (.notNumeric value)) else .error (.entry .unwritable)
  | .ok number =>
      match NonFinite.ofFloat? number with
      | none => .ok (.ok (Number.ofFloat number))
      | some what => .ok (.error (.notFinite what))

/-- Calls a callback at a point and accepts a finite real result. -/
@[specialize]
def evaluate (problem : Problem α) (role : Role) (state : α) (control : Option α) (time : Int) :
    Except (EvaluationError α) α :=
  let judged (verdict : Except (Reason α) α) : Except (EvaluationError α) α :=
    match verdict with
    | .ok result => .ok result
    | .error reason => .error (CallbackFailure.report ⟨role, state, control, time, reason⟩)
  match problem.callAt role state control time with
  | .raised exception =>
      match exception.reason with
      | .ok reason => judged (.error reason)
      | .error cause => .error (.unwritten cause)
  | .number result => judged (acceptNumber result)
  | .other value =>
      match acceptValue value with
      | .ok verdict => judged verdict
      | .error cause => .error (.uncaught cause)

/-- The first position from `index` on whose entry is no finite number, and what it is instead. -/
@[specialize]
def firstNonFinite? {β : Type} (nonFinite? : β → Option NonFinite) (entries : Array β)
    (index : Nat) : Option (Nat × NonFinite) :=
  if hindex : index < entries.size then
    match nonFinite? entries[index] with
    | some what => some (index, what)
    | none => firstNonFinite? nonFinite? entries (index + 1)
  else none
termination_by entries.size - index

/-- A report that is made of the state and the control at a position of a block.  They are looked up
first. -/
def reportAt (states : Tensor α) (controls : Option (Tensor α)) (shape : List Nat) (position : Nat)
    (report : (state : α) → (control : Option α) → EvaluationError α) : EvaluationError α :=
  match states.entryAt? shape position, decide (position < extent shape) with
  | some state, true => report state (controls.bind (·.entryAt? shape position))
  | _, _ => .noPoint ⟨0, shape.findIdx (· == 0), 0⟩

/-- The failure at a position of a block, with the state and the control that stand there. -/
def failureAt (role : Role) (states : Tensor α) (controls : Option (Tensor α)) (time : Int)
    (shape : List Nat) (position : Nat) (reason : Reason α) : EvaluationError α :=
  reportAt states controls shape position fun state control =>
    CallbackFailure.report ⟨role, state, control, time, reason⟩

/-- Accepts an array of finite numbers that fits the shape of the block.  An error has the position
at which it is reported. -/
@[specialize]
def acceptArray {β : Type} (nonFinite? : β → Option NonFinite) (shape : List Nat)
    (results : Tensor β) : Except (Nat × Reason α) (Vector β (extent shape)) :=
  match results.expand? shape with
  | none => .error (0, .notRealArray shape)
  | some expanded =>
      match firstNonFinite? nonFinite? expanded.data 0 with
      | some (position, what) => .error (position, .notFinite what)
      | none =>
          if hsize : expanded.data.size = extent shape then .ok ⟨expanded.data, hsize⟩
          else .error (0, .notRealArray shape)

/-- Accepts a value that is an array of finite real numbers; the outer error is one that is passed
on. -/
def acceptArrayValue (shape : List Nat) (value : Value) :
    Except ArrayError (Except (Nat × Reason α) (Vector α (extent shape))) := do
  if ← value.isComplexArray then return .error (0, .complexValues)
  match value.toTensor with
  | .error (.entry .tooLarge) => throw (.entry .tooLarge)
  | .error _ => return .error (0, .notRealArray shape)
  | .ok results =>
      return (acceptArray NonFinite.ofFloat? shape results).map (·.map Number.ofFloat)

/-- Calls a callback on a block and accepts finite real results, one for each position of the shape
in row-major order.  A result that is no finite number is reported at the first such position, every
other failure at the first position of the block. -/
@[specialize]
def evaluateBlock (problem : Problem α) (role : Role) (states : Tensor α)
    (controls : Option (Tensor α)) (time : Int) (shape : List Nat) :
    Except (EvaluationError α) (Vector α (extent shape)) :=
  let judged (verdict : Except (Nat × Reason α) (Vector α (extent shape))) :
      Except (EvaluationError α) (Vector α (extent shape)) :=
    match verdict with
    | .ok results => .ok results
    | .error (position, reason) =>
        .error (failureAt role states controls time shape position reason)
  if !states.fits shape then .error (.misfit states.shape shape)
  else if controls.any (!·.fits shape) then
    .error (.misfit ((controls.map Tensor.shape).getD []) shape)
  else match problem.callOnBlock role states controls time with
    | .raised exception =>
        match exception.reason with
        | .ok reason => judged (.error (0, reason))
        | .error cause => .error (reportAt states controls shape 0 fun _ _ => .unwritten cause)
    | .number results => judged (acceptArray Number.nonFinite? shape results)
    | .other value =>
        match acceptArrayValue shape value with
        | .ok verdict => judged verdict
        | .error cause => .error (.uncaught cause)

/-- A shape given by integers, for states and controls of given shapes.  A shape without axes takes
nothing that has one, whatever comes after. -/
def shapeOfIntegers (states : Tensor α) (given : List Int) :
    Except (EvaluationError α) (List Nat) :=
  if given.isEmpty && !states.shape.isEmpty then .error (.misfit states.shape [])
  else if given.any (· < 0) then .error .negativeExtent
  else
    let shape := given.map Int.toNat
    match Storage.checkRepeated shape with
    | .error .longAxis => .error (.storage .longAxis)
    | .error cause =>
        if states.fits shape then .error (.storage cause) else .error (.misfit states.shape shape)
    | .ok () => .ok shape

end Problem

end BellmanGrid
