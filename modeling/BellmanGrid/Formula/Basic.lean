import BellmanGrid.Problem.Basic

/-!
Formulas of state, control and time, and the two ways to evaluate them.

Checked evaluation stops at a division by zero and at the root of a negative number, and evaluates
only the branch that a choice takes.  Plain evaluation lets every operation have its result, which
may be no finite number, and goes through both branches.  In either way a formula may raise, or hand
back a value in place of a number, which ends the evaluation.
-/

namespace BellmanGrid

inductive BinaryOperation where
  | add
  | subtract
  | multiply
  | divide
  | less
  | atMost
  | equal
deriving Repr, DecidableEq

inductive UnaryOperation where
  | negate
  | magnitude
  | root
  | floor
deriving Repr, DecidableEq

/-- Formulas of a state, a control and a time. -/
inductive Formula where
  | state
  | control
  | time
  | constant (number : Float)
  | binary (operation : BinaryOperation) (left right : Formula)
  | unary (operation : UnaryOperation) (operand : Formula)
  /-- the first branch unless the condition is zero -/
  | choose (condition taken otherwise : Formula)
  | raise (exception : Raised)
  /-- hands back a value as the result of the whole formula -/
  | give (value : Value)

namespace Formula

/-- The exception of a kind with an argument.  A missing key is shown in quotes. -/
def raisedWith (kind argument : String) : Raised :=
  .written kind (if kind = "KeyError" then Text.quoted argument else argument)

/-- One or zero for a truth value. -/
def indicator (flag : Bool) : Float :=
  if flag then 1.0 else 0.0

def applyBinary (operation : BinaryOperation) (left right : Float) : Float :=
  match operation with
  | .add => left + right
  | .subtract => left - right
  | .multiply => left * right
  | .divide => left / right
  | .less => indicator (left < right)
  | .atMost => indicator (left ≤ right)
  | .equal => indicator (left == right)

def applyUnary (operation : UnaryOperation) (operand : Float) : Float :=
  match operation with
  | .negate => -operand
  | .magnitude => operand.abs
  | .root => operand.sqrt
  | .floor => operand.floor

/-- How an evaluation ends without a number. -/
inductive Interruption where
  | raised (exception : Raised)
  | given (value : Value)

def Interruption.reply {β : Type} : Except Interruption β → Reply β
  | .ok result => .number result
  | .error (.raised exception) => .raised exception
  | .error (.given value) => .other value

/-- Refuses a division by zero. -/
def checkedBinary (operation : BinaryOperation) (left right : Float) : Except Interruption Float :=
  if operation = .divide && right == 0.0 then
    .error (.raised (.written "ZeroDivisionError" "float division by zero"))
  else .ok (applyBinary operation left right)

/-- Refuses the root of a negative number. -/
def checkedUnary (operation : UnaryOperation) (operand : Float) : Except Interruption Float :=
  if operation = .root && operand < 0.0 then
    .error (.raised (.written FailureKind.value.name "math domain error"))
  else .ok (applyUnary operation operand)

/-- A time as a number, which it must not be too large for. -/
def timeNumber (atTime : Int) : Except Interruption Float :=
  (realOfInteger atTime).mapError fun error => .raised (Raised.ofError error)

def checked (atState atControl : Float) (atTime : Int) : Formula → Except Interruption Float
  | state => .ok atState
  | control => .ok atControl
  | time => timeNumber atTime
  | constant number => .ok number
  | binary operation left right => do
      let left ← checked atState atControl atTime left
      let right ← checked atState atControl atTime right
      checkedBinary operation left right
  | unary operation operand => do
      checkedUnary operation (← checked atState atControl atTime operand)
  | choose condition taken otherwise => do
      let condition ← checked atState atControl atTime condition
      if condition == 0.0 then checked atState atControl atTime otherwise
      else checked atState atControl atTime taken
  | raise exception => .error (.raised exception)
  | give value => .error (.given value)

/-- The first interruption that evaluating every part of a formula at a time meets. -/
def interruption? (atTime : Int) : Formula → Option Interruption
  | time => match timeNumber atTime with
      | .ok _ => none
      | .error interruption => some interruption
  | binary _ left right => interruption? atTime left <|> interruption? atTime right
  | unary _ operand => interruption? atTime operand
  | choose condition taken otherwise =>
      interruption? atTime condition <|> interruption? atTime taken <|>
        interruption? atTime otherwise
  | raise exception => some (.raised exception)
  | give value => some (.given value)
  | _ => none

/-- Plain evaluation of a formula without interruptions; an interruption counts as zero. -/
def plain (atState atControl : Float) (atTime : Float) : Formula → Float
  | state => atState
  | control => atControl
  | time => atTime
  | constant number => number
  | binary operation left right =>
      applyBinary operation (plain atState atControl atTime left)
        (plain atState atControl atTime right)
  | unary operation operand => applyUnary operation (plain atState atControl atTime operand)
  | choose condition taken otherwise =>
      if plain atState atControl atTime condition == 0.0 then
        plain atState atControl atTime otherwise
      else plain atState atControl atTime taken
  | raise _ => 0.0
  | give _ => 0.0

/-- The reply of plain evaluation at a time: an interruption anywhere decides it. -/
def plainReply {β : Type} (formula : Formula) (atTime : Int) (reply : Reply β) : Reply β :=
  match formula.interruption? atTime with
  | some interruption => Interruption.reply (.error interruption)
  | none => reply

/-- The formula with other formulas in the places of state and control. -/
def substitute (formula forState forControl : Formula) : Formula :=
  match formula with
  | state => forState
  | control => forControl
  | binary operation left right =>
      binary operation (left.substitute forState forControl) (right.substitute forState forControl)
  | unary operation operand => unary operation (operand.substitute forState forControl)
  | choose condition taken otherwise =>
      choose (condition.substitute forState forControl) (taken.substitute forState forControl)
        (otherwise.substitute forState forControl)
  | other => other

/-- The formula of a value that is read as an entry of an array, which raises when the value is no
number. -/
def ofValue (value : Value) : Formula :=
  match value.entryToReal with
  | .ok number => constant number
  | .error error => raise (Raised.ofError error)

end Formula

end BellmanGrid
