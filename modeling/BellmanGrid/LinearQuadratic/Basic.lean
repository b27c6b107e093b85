import BellmanGrid.Problem.Basic

/-!
The scalar linear-quadratic tracking problem: linear dynamics, quadratic stage cost, and a quadratic
terminal cost around a target.
-/

namespace BellmanGrid

structure LinearQuadratic (α : Type) where
  /-- the weight of the state in the dynamics -/
  a : α
  /-- the weight of the control in the dynamics -/
  b : α
  /-- the weight of the squared state in the stage cost -/
  q : α
  /-- the weight of the squared control in the stage cost -/
  r : α
  /-- the weight of the squared distance to the target in the terminal cost -/
  terminalWeight : α
  target : α
deriving Repr

namespace LinearQuadratic

variable {α : Type} [Number α]

@[inline]
def next (system : LinearQuadratic α) (state control : α) : α :=
  system.a * state + system.b * control

@[inline]
def stageCost (system : LinearQuadratic α) (state control : α) : α :=
  system.q * state * state + system.r * control * control

@[inline]
def terminalCost (system : LinearQuadratic α) (state : α) : α :=
  let miss := state - system.target
  system.terminalWeight * miss * miss

/-- The control problem; its callbacks are total and act entry by entry on blocks. -/
@[specialize]
def problem (system : LinearQuadratic α) (vectorized : Bool) : Problem α :=
  Problem.ofFunctions "LinearQuadraticProblem" vectorized (fun _ => system.next)
    (fun _ => system.stageCost) (fun _ => system.terminalCost)

/-- The problem with coefficients given as values. -/
def ofValues (a b q r terminalWeight target : Value) :
    Except ConversionError (LinearQuadratic Float) := do
  return {
    a := ← a.toReal
    b := ← b.toReal
    q := ← q.toReal
    r := ← r.toReal
    terminalWeight := ← terminalWeight.toReal
    target := ← target.toReal }

def description (system : LinearQuadratic Float) : String :=
  let text := Decimal.text
  s!"LinearQuadraticProblem(a={text system.a}, b={text system.b}, q={text system.q}, " ++
    s!"r={text system.r}, p_terminal={text system.terminalWeight}, " ++
    s!"x_target={text system.target})"

end LinearQuadratic

end BellmanGrid
