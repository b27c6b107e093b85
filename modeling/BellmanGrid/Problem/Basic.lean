import BellmanGrid.Number.Basic
import BellmanGrid.Value.Arrangement

/-!
Control problems: dynamics, stage cost and terminal cost, and what a call of one of them can do.

A problem is evaluated point by point, or, when it says so, a whole block of states and controls at
once.  Callbacks are not trusted: they may raise or hand back any value at all.
-/

namespace BellmanGrid

/-- An exception of a callback: its kind by name, and its text.  An attempt to write the text may
end in an exception of its own, and then there is none. -/
inductive Raised where
  | written (kind text : String)
  | unwritten (kind : String) (cause : Raised)
deriving Repr, DecidableEq

namespace Raised

def ofError {ε : Type} [Reportable ε] (error : ε) : Raised :=
  written (Reportable.kind error).name (message error)

def kind : Raised → String
  | written kind _ => kind
  | unwritten kind _ => kind

/-- The text of an exception, empty where it cannot be written. -/
def text : Raised → String
  | written _ text => text
  | unwritten _ _ => ""

end Raised

/-- What a callback does: it raises, or hands back what it should, or hands back another value. -/
inductive Reply (β : Type) where
  | raised (exception : Raised)
  | number (result : β)
  | other (value : Value)

/-- The three callbacks of a problem. -/
inductive Role where
  | dynamics
  | stageCost
  | terminalCost
deriving Repr, DecidableEq

def Role.text : Role → String
  | dynamics => "dynamics"
  | stageCost => "stage_cost"
  | terminalCost => "terminal_cost"

/-- A control problem.  The block callbacks are used by the backward sweep of a vectorized problem;
everything else calls the point callbacks.  The family names the kind of problem in messages. -/
structure Problem (α : Type) where
  family : String
  vectorized : Bool
  dynamics : (state control : α) → (time : Int) → Reply α
  stageCost : (state control : α) → (time : Int) → Reply α
  terminalCost : (state : α) → (time : Int) → Reply α
  dynamicsBlock : (states controls : Tensor α) → (time : Int) → Reply (Tensor α)
  stageCostBlock : (states controls : Tensor α) → (time : Int) → Reply (Tensor α)
  terminalCostBlock : (states : Tensor α) → (time : Int) → Reply (Tensor α)

namespace Problem

variable {α : Type}

/-- The exception of a call with one argument too many or too few. -/
def wrongArguments (family : String) (role : Role) (hasControl : Bool) : Raised :=
  .written FailureKind.type.name <| if hasControl then
    s!"{family}.{role.text}() takes 3 positional arguments but 4 were given"
  else s!"{family}.{role.text}() missing 1 required positional argument: 'k'"

/-- Calls a callback at a point; without a control only the terminal cost takes the call. -/
@[inline]
def callAt (problem : Problem α) (role : Role) (state : α) (control : Option α) (time : Int) :
    Reply α :=
  match role, control with
  | .dynamics, some control => problem.dynamics state control time
  | .stageCost, some control => problem.stageCost state control time
  | .terminalCost, none => problem.terminalCost state time
  | role, control => .raised (wrongArguments problem.family role control.isSome)

@[inline]
def callOnBlock (problem : Problem α) (role : Role) (states : Tensor α)
    (controls : Option (Tensor α)) (time : Int) : Reply (Tensor α) :=
  match role, controls with
  | .dynamics, some controls => problem.dynamicsBlock states controls time
  | .stageCost, some controls => problem.stageCostBlock states controls time
  | .terminalCost, none => problem.terminalCostBlock states time
  | role, controls => .raised (wrongArguments problem.family role controls.isSome)

/-- The problem that starts `offset` steps later: time `k` is time `k + offset` of this one. -/
def shift (problem : Problem α) (offset : Nat) : Problem α where
  family := problem.family
  vectorized := problem.vectorized
  dynamics state control time := problem.dynamics state control (time + offset)
  stageCost state control time := problem.stageCost state control (time + offset)
  terminalCost state time := problem.terminalCost state (time + offset)
  dynamicsBlock states controls time := problem.dynamicsBlock states controls (time + offset)
  stageCostBlock states controls time := problem.stageCostBlock states controls (time + offset)
  terminalCostBlock states time := problem.terminalCostBlock states (time + offset)

/-- The exception of an operation on two arrays that fit no common shape. -/
def shapeClash (first second : List Nat) : Raised :=
  .written FailureKind.value.name <| "operands could not be broadcast together with shapes " ++
    s!"{denseShapeText first} {denseShapeText second} "

/-- Applies a function of state and control to every pair of a block. -/
@[specialize]
def overBlock (function : α → α → α) (states controls : Tensor α) : Reply (Tensor α) :=
  match Tensor.zipWith? function states controls with
  | some results => .number results
  | none => .raised (shapeClash states.shape controls.shape)

/-- The problem whose callbacks are total functions, on points and entry by entry on blocks. -/
@[specialize]
def ofFunctions (family : String) (vectorized : Bool)
    (dynamics stageCost : (time : Int) → α → α → α)
    (terminalCost : (time : Int) → α → α) : Problem α where
  family
  vectorized
  dynamics state control time := .number (dynamics time state control)
  stageCost state control time := .number (stageCost time state control)
  terminalCost state time := .number (terminalCost time state)
  dynamicsBlock states controls time := overBlock (dynamics time) states controls
  stageCostBlock states controls time := overBlock (stageCost time) states controls
  terminalCostBlock states time := .number (states.map (terminalCost time))

end Problem

end BellmanGrid
