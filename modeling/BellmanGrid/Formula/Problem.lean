import BellmanGrid.Formula.Basic

/-!
Control problems given by formulas.  A vectorized problem evaluates its formulas plainly, any other
one evaluates them checked.
-/

namespace BellmanGrid

/-- What is handed over as a callback: a formula, or a value that cannot be called. -/
inductive Callback where
  | formula (body : Formula)
  | value (given : Value)

/-- A callback that cannot be called. -/
structure NotCallable where
  name : String
  typeName : String
deriving Repr, DecidableEq

instance : Reportable NotCallable where
  kind _ := .type
  message error := s!"{error.name} must be callable, got {error.typeName}"

namespace Callback

def formula? (name : String) : Callback → Except NotCallable Formula
  | formula body => .ok body
  | value given => .error ⟨name, given.typeName⟩

end Callback

namespace Problem

def ofFormulas (vectorized : Bool) (dynamics stageCost terminalCost : Formula) : Problem Float where
  family := "FunctionProblem"
  vectorized
  dynamics := atPoint dynamics
  stageCost := atPoint stageCost
  terminalCost state time := atPoint terminalCost state (0.0 / 0.0) time
  dynamicsBlock := onBlock dynamics
  stageCostBlock := onBlock stageCost
  terminalCostBlock states time :=
    terminalCost.plainReply time
      (.number (states.map fun state =>
        terminalCost.plain state (0.0 / 0.0) (floatOfInt time)))
where
  /-- The reply of a formula at a point. -/
  atPoint (formula : Formula) (state control : Float) (time : Int) : Reply Float :=
    if vectorized then
      formula.plainReply time (.number (formula.plain state control (floatOfInt time)))
    else Formula.Interruption.reply (formula.checked state control time)
  /-- The reply of a formula on a block. -/
  onBlock (formula : Formula) (states controls : Tensor Float) (time : Int) :
      Reply (Tensor Float) :=
    let instant := floatOfInt time
    formula.plainReply time
      (overBlock (fun state control => formula.plain state control instant) states controls)

end Problem

end BellmanGrid
