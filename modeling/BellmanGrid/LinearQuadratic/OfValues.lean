import BellmanGrid.Index.Selection
import BellmanGrid.LinearQuadratic.ClosedForm
import BellmanGrid.Value.Arithmetic
import BellmanGrid.Value.Comparison

/-!
The linear-quadratic problem and its closed form on values of any type.

States, controls, coefficients and times are taken as they were given.  The checks of the closed
form see the values themselves, integer weights give the constant of the terminal cost exactly, and
a coefficient is refused at the first operation that it takes part in; over no steps at all the two
weights of the stage cost take part in none.
-/

namespace BellmanGrid

/-- Why a closed form is refused for values, or does not answer a question about them. -/
inductive ClosedFormRequestError where
  | incomparable (cause : Incomparable)
  | controlWeight (given : Value)
  | terminalWeight (given : Value)
  | horizon (given : Value)
  /-- a length that is no integer -/
  | length (given : Value)
  | storage (cause : Storage.StorageError)
  | operand (cause : OperandError)
  | entry (cause : EntryError)
  | selection (cause : SelectionError)

instance : Reportable ClosedFormRequestError where
  kind
    | .incomparable cause => kind cause
    | .length _ => .type
    | .storage cause => kind cause
    | .operand cause => kind cause
    | .entry cause => kind cause
    | .selection cause => kind cause
    | _ => .value
  message
    | .incomparable cause => message cause
    | .controlWeight given => s!"control weight r must be positive, got {given.plain}"
    | .terminalWeight given => s!"terminal weight must be non-negative, got {given.plain}"
    | .horizon given => s!"horizon must be non-negative, got {given.plain}"
    | .length given =>
        s!"expected a sequence of integers or a single integer, got '{given.literal}'"
    | .storage cause => message cause
    | .operand cause => message cause
    | .entry cause => message cause
    | .selection cause => message cause

namespace LinearQuadratic

def joined (operation : ArithmeticOperation) (left right : Quantity) :
    Except OperandError Quantity :=
  (left.combine operation right).mapError OperandError.conversion

/-- A weight times the square of a value, multiplied from the left. -/
def weightedSquare (weight : Float) (value : Value) : Except OperandError Quantity := do
  let once ← (Value.real weight).operate .multiply .given value
  once.toValue.operate .multiply .given value

def nextOfValues (system : LinearQuadratic Float) (state control : Value) :
    Except OperandError Quantity := do
  let fromState ← (Value.real system.a).operate .multiply .given state
  let fromControl ← (Value.real system.b).operate .multiply .given control
  joined .add fromState fromControl

def stageCostOfValues (system : LinearQuadratic Float) (state control : Value) :
    Except OperandError Quantity := do
  let ofState ← weightedSquare system.q state
  let ofControl ← weightedSquare system.r control
  joined .add ofState ofControl

def terminalCostOfValue (system : LinearQuadratic Float) (state : Value) :
    Except OperandError Quantity := do
  let miss ← state.operate .subtract .given (.real system.target)
  joined .multiply (← joined .multiply (.real system.terminalWeight) miss) miss

/-- Accepts a coefficient as a factor of a stored number. -/
def checkFactor (coefficient : Value) : Except ClosedFormRequestError Unit :=
  discard (((Value.real 1.0).operate .multiply .stored coefficient).mapError
    ClosedFormRequestError.operand)

/-- Accepts the state weight as an addend of a stored number, which is complex when one of the
factors before it is.  The sum is stored in turn. -/
def checkAddend (weight : Value) (isComplex : Bool) : Except ClosedFormRequestError Unit := do
  let stored : Value := if isComplex then .complex 1.0 0.0 else .real 1.0
  match weight.items? with
  | some _ =>
      (Value.checkArrayOperation .add false [] weight).mapError ClosedFormRequestError.operand
      throw (.entry .list)
  | none =>
      discard ((weight.operate .add .stored stored).mapError ClosedFormRequestError.operand)
      unless isComplex do
        discard (weight.toEntry.mapError ClosedFormRequestError.entry)

def isComplexValue : Value → Bool
  | .complex _ _ => true
  | _ => false

def stepsOf (horizon : Value) : Except ClosedFormRequestError Nat := do
  let steps ← match horizon with
    | .integer length => pure length
    | .boolean flag => pure (if flag then 1 else 0)
    | .real length => throw (.length (.real (length + 1.0)))
    | given => throw (.length given)
  (Storage.check [steps.toNat + 1]).mapError ClosedFormRequestError.storage
  match horizon with
  | .integer _ => return steps.toNat
  | given => throw (.length given)

def terminalOfValues (weight target : Value) :
    Except ClosedFormRequestError (Quadratic Float) := do
  let entry (quantity : Quantity) : Except ClosedFormRequestError Float :=
    quantity.toValue.toEntry.mapError ClosedFormRequestError.entry
  let times (left right : Value) : Except ClosedFormRequestError Quantity :=
    (left.operate .multiply .given right).mapError ClosedFormRequestError.operand
  let square ← weight.toEntry.mapError ClosedFormRequestError.entry
  let linear ← entry (← times (← times (.real (-2.0)) weight).toValue target)
  let constant ← entry (← times (← times weight target).toValue target)
  return { square, linear, constant }

def solveValues (a b q r terminalWeight target horizon : Value) :
    Except ClosedFormRequestError (ClosedForm Float) := do
  if ← (r.isAtMost 0 "float").mapError ClosedFormRequestError.incomparable then
    throw (.controlWeight r)
  if ← (terminalWeight.isBelow 0 "float").mapError ClosedFormRequestError.incomparable then
    throw (.terminalWeight terminalWeight)
  if ← (horizon.isBelow 0 "int").mapError ClosedFormRequestError.incomparable then
    throw (.horizon horizon)
  let steps ← stepsOf horizon
  let last ← terminalOfValues terminalWeight target
  let number (value : Value) : Except ClosedFormRequestError Float :=
    value.toReal.mapError fun cause => .operand (.conversion cause)
  if 0 < steps then
    checkFactor b
    discard (number r)
    checkFactor a
    checkAddend q (isComplexValue a || isComplexValue b)
  let a ← number a
  let b ← number b
  let weight (value : Value) : Float := value.toReal.toOption.getD 0.0
  let system : LinearQuadratic Float :=
    { a, b, q := weight q, r := weight r, terminalWeight := last.square, target := weight target }
  return system.solveFrom last steps

def solveOver (system : LinearQuadratic Float) (horizon : Value) :
    Except ClosedFormRequestError (ClosedForm Float) :=
  solveValues (.real system.a) (.real system.b) (.real system.q) (.real system.r)
    (.real system.terminalWeight) (.real system.target) horizon

end LinearQuadratic

namespace ClosedForm

/-- The position that a time selects among `count` stored numbers, which are then multiplied by a
state.  A time that selects an array leaves no single number. -/
def positionOf (count : Nat) (time state : Value) : Except ClosedFormRequestError (Fin count) := do
  let selector ← (Selector.ofValue time).mapError ClosedFormRequestError.selection
  let selection ← (select [count] [selector]).mapError ClosedFormRequestError.selection
  match selection.cell? with
  | some (index :: _) =>
      if hindex : index < count then return ⟨index, hindex⟩
      else throw (.selection .manyCells)
  | _ =>
      (Value.checkArrayOperation .multiply true selection.shape state).mapError
        ClosedFormRequestError.operand
      throw (.selection .manyCells)

/-- The sum or difference of a product and a stored number. -/
def joinedReal (operation : ArithmeticOperation) (left right : Quantity) :
    Except ClosedFormRequestError Quantity :=
  (LinearQuadratic.joined operation left right).mapError ClosedFormRequestError.operand

def scaled (number : Float) (state : Value) : Except ClosedFormRequestError Quantity :=
  ((Value.real number).operate .multiply .stored state).mapError ClosedFormRequestError.operand

def resultOf (quantity : Quantity) : Except ClosedFormRequestError Float :=
  quantity.realPart.mapError fun cause => .operand (.conversion cause)

def costToGoOf (solution : ClosedForm Float) (state time : Value) :
    Except ClosedFormRequestError Float := do
  let cost := solution.costs[← positionOf solution.costs.length time state]
  let once ← scaled cost.square state
  let twice ← (once.toValue.operate .multiply .stored state).mapError
    ClosedFormRequestError.operand
  let sum ← joinedReal .add twice (← scaled cost.linear state)
  resultOf (← joinedReal .add sum (.real cost.constant))

def controlOf (solution : ClosedForm Float) (state time : Value) :
    Except ClosedFormRequestError Float := do
  let law := solution.laws[← positionOf solution.laws.length time state]
  resultOf (← joinedReal .subtract (← scaled (-law.gain) state) (.real law.offset))

/-- The states and the controls of the optimal law from an initial state given as a value. -/
def simulateOf (solution : ClosedForm Float) (initial : Value) :
    Except EntryError (List Float × List Float) := do
  return solution.simulate (← initial.toEntry)

end ClosedForm

end BellmanGrid
