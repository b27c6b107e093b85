import BellmanGrid.Formula.OnValues
import BellmanGrid.Formula.Problem
import BellmanGrid.LinearQuadratic.OfValues
import BellmanGrid.Problem.Evaluation

/-!
What problems are made from, and calls of their callbacks with states and controls of any type.

A formula computes with the values themselves, and so does the linear-quadratic problem.  A formula
of a vectorized problem reads a number from the state or the control where it mentions it, and takes
an absent one for no number.
-/

namespace BellmanGrid

inductive ProblemSource where
  | linearQuadratic (system : LinearQuadratic Float) (vectorized : Bool)
  | formulas (vectorized : Bool) (dynamics stageCost terminalCost : Formula)

/-- The same reason about other quantities. -/
def Reason.map {α β : Type} (change : α → β) : Reason α → Reason β
  | raised kind text => .raised kind text
  | notNumeric value => .notNumeric value
  | notFinite result => .notFinite result
  | complexValues => .complexValues
  | notRealArray shape => .notRealArray shape
  | overflow stage next => .overflow (change stage) (next.map change)

namespace ProblemSource

/-- The source of a problem of three callbacks, all of which must be callable. -/
def ofCallbacks (vectorized : Bool) (dynamics stageCost terminalCost : Callback) :
    Except NotCallable ProblemSource := do
  return formulas vectorized (← dynamics.formula? "f") (← stageCost.formula? "V")
    (← terminalCost.formula? "S")

def problem : ProblemSource → Problem Float
  | linearQuadratic system vectorized => system.problem vectorized
  | formulas vectorized dynamics stageCost terminalCost =>
      Problem.ofFormulas vectorized dynamics stageCost terminalCost

/-- The reply of a computation on values. -/
def replyOfQuantity : Except OperandError Quantity → Reply Float
  | .ok (.real number) => .number number
  | .ok quantity => .other quantity.toValue
  | .error error => .raised (Raised.ofError error)

def replyOfFormula (vectorized : Bool) (formula : Formula) (state control : Value) (time : Int) :
    Reply Float :=
  if vectorized then
    let closed := formula.substitute (Formula.ofValue state) (Formula.ofValue control)
    (Problem.ofFormulas true closed closed closed).dynamics 0.0 0.0 time
  else Formula.replyOfValue (formula.checkedOnValues state control time)

/-- Calls a callback; without a control only the terminal cost takes the call. -/
def callAt (source : ProblemSource) (role : Role) (state : Value) (control : Option Value)
    (time : Int) : Reply Float :=
  match source, role, control with
  | linearQuadratic system _, .dynamics, some control =>
      replyOfQuantity (system.nextOfValues state control)
  | linearQuadratic system _, .stageCost, some control =>
      replyOfQuantity (system.stageCostOfValues state control)
  | linearQuadratic system _, .terminalCost, none =>
      replyOfQuantity (system.terminalCostOfValue state)
  | formulas vectorized dynamics _ _, .dynamics, some control =>
      replyOfFormula vectorized dynamics state control time
  | formulas vectorized _ stageCost _, .stageCost, some control =>
      replyOfFormula vectorized stageCost state control time
  | formulas vectorized _ _ terminalCost, .terminalCost, none =>
      replyOfFormula vectorized terminalCost state (.real (0.0 / 0.0)) time
  | source, role, control =>
      .raised (Problem.wrongArguments source.problem.family role control.isSome)

/-- The error that a failure is reported by.  Its text has the state and the control in it too. -/
def report (failure : CallbackFailure Value) : EvaluationError Value :=
  if failure.state.isWritable && failure.control.all (·.isWritable) then failure.report
  else .uncaught (.entry .unwritable)

/-- Calls a callback and accepts a finite real result. -/
def evaluate (source : ProblemSource) (role : Role) (state : Value) (control : Option Value)
    (time : Int) : Except (EvaluationError Value) Float :=
  let judged (verdict : Except (Reason Float) Float) : Except (EvaluationError Value) Float :=
    verdict.mapError fun reason => report ⟨role, state, control, time, reason.map Value.real⟩
  match source.callAt role state control time with
  | .raised exception =>
      match exception.reason with
      | .ok reason => judged (.error reason)
      | .error cause => .error (.unwritten cause)
  | .number result => judged (Problem.acceptNumber result)
  | .other value =>
      match Problem.acceptValue value with
      | .ok verdict => judged verdict
      | .error cause => .error (.uncaught cause)

end ProblemSource

end BellmanGrid
