import BellmanGrid.Index
import BellmanGrid.LinearQuadratic.Basic
import BellmanGrid.Storage

/-!
The exact solution of the linear-quadratic tracking problem.

The cost-to-go of every time is a quadratic function of the state.  Its coefficients follow from
those of the next time, and so does the optimal control, which is an affine function of the state.
-/

namespace BellmanGrid

/-- A cost-to-go `square * x * x + linear * x + constant`. -/
structure Quadratic (α : Type) where
  square : α
  linear : α
  constant : α
deriving Repr, DecidableEq

/-- An affine law: the control at `x` is `-gain * x - offset`. -/
structure AffineLaw (α : Type) where
  gain : α
  offset : α
deriving Repr, DecidableEq

def Quadratic.at {α : Type} [Number α] (cost : Quadratic α) (state : α) : α :=
  cost.square * state * state + cost.linear * state + cost.constant

def AffineLaw.at {α : Type} [Number α] (law : AffineLaw α) (state : α) : α :=
  -law.gain * state - law.offset

inductive ClosedFormError (α : Type) where
  | controlWeight (weight : α)
  | terminalWeight (weight : α)
  | horizon (length : Int)
  | storage (cause : Storage.StorageError)
deriving Repr, DecidableEq

instance : Reportable (ClosedFormError Float) where
  kind
    | .storage cause => kind cause
    | _ => .value
  message
    | .controlWeight weight => s!"control weight r must be positive, got {Decimal.text weight}"
    | .terminalWeight weight =>
        s!"terminal weight must be non-negative, got {Decimal.text weight}"
    | .horizon length => s!"horizon must be non-negative, got {length}"
    | .storage cause => message cause

/-- The solution over a horizon: the costs-to-go of the times `0` to `horizon`, and the laws of the
times before the horizon. -/
structure ClosedForm (α : Type) where
  costs : List (Quadratic α)
  laws : List (AffineLaw α)
  a : α
  b : α

namespace LinearQuadratic

variable {α : Type} [Number α]

/-- What the coefficients of one time are divided by. -/
def divisor (system : LinearQuadratic α) (next : Quadratic α) : α :=
  system.r + next.square * system.b * system.b

/-- The optimal law before a time with the given cost-to-go. -/
def lawBefore (system : LinearQuadratic α) (next : Quadratic α) : AffineLaw α :=
  let divisor := system.divisor next
  { gain := next.square * system.a * system.b / divisor
    offset := next.linear * system.b / (Number.ofInt 2 * divisor) }

/-- The cost-to-go one step before a time with the given cost-to-go. -/
def costBefore (system : LinearQuadratic α) (next : Quadratic α) : Quadratic α :=
  let divisor := system.divisor next
  { square := system.q + next.square * system.a * system.a * system.r / divisor
    linear := next.linear * system.a * system.r / divisor
    constant := next.constant -
      next.linear * next.linear * system.b * system.b / (Number.ofInt 4 * divisor) }

/-- The terminal cost as a quadratic function of the state. -/
def terminalQuadratic (system : LinearQuadratic α) : Quadratic α where
  square := system.terminalWeight
  linear := Number.ofInt (-2) * system.terminalWeight * system.target
  constant := system.terminalWeight * system.target * system.target

/-- The costs-to-go over `steps` steps that end in the given one, in the order of time. -/
def costsDownTo (system : LinearQuadratic α) (last : Quadratic α) :
    (steps : Nat) → (later : List (Quadratic α)) → List (Quadratic α)
  | 0, later => last :: later
  | steps + 1, later => costsDownTo system (system.costBefore last) steps (last :: later)

/-- The solution over a number of steps for a given cost-to-go at the end. -/
def solveFrom (system : LinearQuadratic α) (last : Quadratic α) (steps : Nat) : ClosedForm α :=
  let costs := system.costsDownTo last steps []
  { costs, laws := costs.tail.map system.lawBefore, a := system.a, b := system.b }

/-- The solution over a horizon.  The control weight must be above zero, and the terminal weight and
the horizon must not be below it. -/
def solve (system : LinearQuadratic α) (horizon : Int) :
    Except (ClosedFormError α) (ClosedForm α) := do
  if Number.atMost system.r Number.zero then throw (.controlWeight system.r)
  if Number.less system.terminalWeight Number.zero then
    throw (.terminalWeight system.terminalWeight)
  if horizon < 0 then throw (.horizon horizon)
  (Storage.check [horizon.toNat + 1]).mapError ClosedFormError.storage
  return system.solveFrom system.terminalQuadratic horizon.toNat

end LinearQuadratic

namespace ClosedForm

variable {α : Type} [Number α]

def horizon (solution : ClosedForm α) : Nat :=
  solution.laws.length

/-- The exact optimal cost from a state at a time, which may be counted from the end. -/
def costToGo (solution : ClosedForm α) (state : α) (time : Int) : Except IndexError α := do
  return (solution.costs[← position 0 solution.costs.length time]).at state

/-- The optimal control at a state and a time, which may be counted from the end. -/
def control (solution : ClosedForm α) (state : α) (time : Int) : Except IndexError α := do
  return (solution.laws[← position 0 solution.laws.length time]).at state

/-- The states and the controls when laws are followed one after the other. -/
def follow (a b : α) : List (AffineLaw α) → (state : α) → List α × List α
  | [], state => ([state], [])
  | law :: rest, state =>
      let control := law.at state
      let (states, controls) := follow a b rest (a * state + b * control)
      (state :: states, control :: controls)

/-- The states and the controls of the optimal law from an initial state. -/
def simulate (solution : ClosedForm α) (initial : α) : List α × List α :=
  follow solution.a solution.b solution.laws initial

end ClosedForm

end BellmanGrid
