import BellmanGrid.Formula.Basic
import BellmanGrid.Value.Arithmetic
import BellmanGrid.Value.Comparison

/-!
Checked evaluation of formulas on a state and a control of any type.

Integers stay exact until they meet a double, and an operation is refused at the first operand that
it cannot take.  On doubles this is checked evaluation.
-/

namespace BellmanGrid

namespace Value

/-- How two numbers with an order stand to each other, or that no order holds between them. -/
def orderOf? (left right : Value) : Option (Option Ordering) :=
  match left, right with
  | real left, real right =>
      some (if left < right then some .lt
        else if left == right then some .eq
        else if right < left then some .gt
        else none)
  | real _, _ => right.quantity?.bind fun
      | .integer bound => left.compareInteger? bound
      | _ => none
  | _, _ => left.quantity?.bind fun
      | .integer given => (right.compareInteger? given).map (·.map Ordering.swap)
      | _ => none

/-- Is a value zero?  What is no number is not. -/
def isZero (value : Value) : Bool :=
  value.quantity?.isSome && !value.truth

end Value

namespace Formula

def stop {β : Type} (kind : FailureKind) (text : String) : Except Interruption β :=
  .error (.raised (.written kind.name text))

def stopAtZero {β : Type} (numbers : String) : Except Interruption β :=
  .error (.raised (.written "ZeroDivisionError" numbers))

/-- A sum, a difference or a product. -/
def combined (operation : ArithmeticOperation) (left right : Value) : Except Interruption Value :=
  match left.operate operation .given right with
  | .ok result => .ok result.toValue
  | .error error => .error (.raised (Raised.ofError error))

/-- A complex number divided by another, by way of the larger part of the divisor. -/
def complexQuotient (left right : Float × Float) : Except Interruption Value :=
  if right.1 == 0.0 && right.2 == 0.0 then stopAtZero "complex division by zero"
  else if right.2.abs ≤ right.1.abs then
    let ratio := right.2 / right.1
    let scale := right.1 + right.2 * ratio
    .ok (.complex ((left.1 + left.2 * ratio) / scale) ((left.2 - left.1 * ratio) / scale))
  else
    let ratio := right.1 / right.2
    let scale := right.1 * ratio + right.2
    .ok (.complex ((left.1 * ratio + left.2) / scale) ((left.2 * ratio - left.1) / scale))

/-- The quotient of two quantities; that of two integers is rounded once. -/
def quotient (left right : Quantity) : Except Interruption Value := do
  let number {β : Type} (conversion : Except ConversionError β) : Except Interruption β :=
    conversion.mapError fun error => .raised (Raised.ofError error)
  match left, right with
  | .integer left, .integer right =>
      if right = 0 then stopAtZero "division by zero"
      else
        let result := nearest (left < 0 ^^ right < 0) left.natAbs right.natAbs
        if result.isFinite then return .real result
        else stop .overflow "integer division result too large for a float"
  | .complex _ _, _ => complexQuotient (← number left.parts) (← number right.parts)
  | _, .complex _ _ => complexQuotient (← number left.parts) (← number right.parts)
  | _, _ =>
      let left ← number left.realPart
      let right ← number right.realPart
      if right == 0.0 then stopAtZero "float division by zero" else return .real (left / right)

/-- One or zero for the outcome of a comparison, which needs an order. -/
def compared (sign : String) (holds : Ordering → Bool) (left right : Value) :
    Except Interruption Value :=
  match left.orderOf? right with
  | some ordering => .ok (.real (indicator (ordering.any holds)))
  | none => .error (.raised (Raised.ofError (Incomparable.mk sign left.typeName right.typeName)))

def binaryOnValues (operation : BinaryOperation) (left right : Value) :
    Except Interruption Value :=
  match operation with
  | .add => combined .add left right
  | .subtract => combined .subtract left right
  | .multiply => combined .multiply left right
  | .divide =>
      match left.quantity?, right.quantity? with
      | some leftNumber, some rightNumber => quotient leftNumber rightNumber
      | _, _ => stop .type
          s!"unsupported operand type(s) for /: '{left.typeName}' and '{right.typeName}'"
  | .less => compared "<" (· == .lt) left right
  | .atMost => compared "<=" (· != .gt) left right
  | .equal => match left.orderOf? right with
      | some ordering => .ok (.real (indicator (ordering == some .eq)))
      | none => .ok (.real (indicator (left.literal == right.literal)))

def unaryOnValue (operation : UnaryOperation) (operand : Value) : Except Interruption Value :=
  match operation, operand.quantity? with
  | .negate, some quantity => .ok quantity.negate.toValue
  | .negate, none => stop .type s!"bad operand type for unary -: '{operand.typeName}'"
  | .magnitude, some (.integer value) => .ok (.integer value.natAbs)
  | .magnitude, some (.real number) => .ok (.real number.abs)
  | .magnitude, some (.complex realPart imaginaryPart) =>
      .ok (.real (realPart * realPart + imaginaryPart * imaginaryPart).sqrt)
  | .magnitude, none => stop .type s!"bad operand type for abs(): '{operand.typeName}'"
  | .floor, some (.integer value) => .ok (.integer value)
  | operation, some (.integer value) =>
      match realOfInteger value with
      | .ok number => (checkedUnary operation number).map Value.real
      | .error error => .error (.raised (Raised.ofError error))
  | operation, some (.real number) => (checkedUnary operation number).map Value.real
  | .root, _ => stop .type s!"must be real number, not {operand.typeName}"
  | .floor, _ => stop .type ("ufunc 'floor' not supported for the input types, and the inputs " ++
      "could not be safely coerced to any supported types according to the casting rule ''safe''")

def checkedOnValues (atState atControl : Value) (atTime : Int) :
    Formula → Except Interruption Value
  | state => .ok atState
  | control => .ok atControl
  | time => (timeNumber atTime).map Value.real
  | constant number => .ok (.real number)
  | binary operation left right => do
      let left ← checkedOnValues atState atControl atTime left
      let right ← checkedOnValues atState atControl atTime right
      binaryOnValues operation left right
  | unary operation operand => do
      unaryOnValue operation (← checkedOnValues atState atControl atTime operand)
  | choose condition taken otherwise => do
      let condition ← checkedOnValues atState atControl atTime condition
      if condition.isZero then checkedOnValues atState atControl atTime otherwise
      else checkedOnValues atState atControl atTime taken
  | raise exception => .error (.raised exception)
  | give value => .error (.given value)

def replyOfValue : Except Interruption Value → Reply Float
  | .ok (.real number) => .number number
  | .ok value => .other value
  | .error interruption => Interruption.reply (.error interruption)

end Formula

end BellmanGrid
