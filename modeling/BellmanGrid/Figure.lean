import BellmanGrid.Decimal.Format
import BellmanGrid.Figure.Scale
import BellmanGrid.Value.Arrangement

/-!
The content of the figure of a trajectory: a stem for each state above a stem for each control.
-/

namespace BellmanGrid

/-- One panel: its texts, a stem for each point, and the lines of its legend if it has one. -/
structure Panel where
  title : String
  xLabel : String
  yLabel : String
  stems : List (Nat × Float)
  legend : Option (List String)

/-- A figure of panels below one another. -/
structure Figure where
  title : String
  panels : List Panel

inductive FigureError where
  | array (cause : ArrayError)
  | noAxis
  | lengthMismatch (states controls : Nat)
  /-- another number of entries than stems -/
  | stemMismatch (entries stems : Nat)
  /-- entries along more axes than two -/
  | manyAxes (stems : Nat) (shape : List Nat)
  /-- a target that is a text -/
  | targetText
  /-- a target of a type that no number is written for -/
  | targetType (typeName : String)
  | target (cause : ConversionError)
  | scale (cause : Scale.ScaleError)
deriving Repr, DecidableEq

instance : Reportable FigureError where
  kind
    | .array cause => kind cause
    | .noAxis => .index
    | .targetType _ => .type
    | .target cause => kind cause
    | .scale cause => kind cause
    | _ => .value
  message
    | .array cause => message cause
    | .noAxis => "tuple index out of range"
    | .lengthMismatch states controls =>
        s!"x_opt must have one more entry than u_opt ({states} vs {controls})"
    | .stemMismatch entries stems =>
        s!"could not broadcast input array from shape {denseShapeText [entries]} into shape " ++
          denseShapeText [stems]
    | .manyAxes stems shape =>
        s!"x and y can be no greater than 2D, but have shapes {shapeText [stems]} and " ++
          shapeText shape
    | .targetText => "Unknown format code 'g' for object of type 'str'"
    | .targetType typeName => s!"unsupported format string passed to {typeName}.__format__"
    | .target cause => message cause
    | .scale cause => message cause

namespace Figure

def defaultTitle : String :=
  "Grid DP Optimal Solution"

/-- Stems over the positions of a list. -/
def stems (numbers : List Float) : List (Nat × Float) :=
  (List.range numbers.length).zip numbers

/-- The figure of states and controls, with the target in the legend if there is one.  A target is
shown by a line of its own, which the scale of the states has to reach. -/
def ofStems (states controls : List Float) (target : Option Float) (title : String) :
    Except FigureError Figure := do
  let stateEnds := match target with
    | some target => Scale.endsWith? states target
    | none => Scale.ends? states
  (Scale.check stateEnds).mapError FigureError.scale
  (Scale.check (Scale.ends? controls)).mapError FigureError.scale
  return {
    title
    panels := [
      { title := "Optimal State Trajectory", xLabel := "", yLabel := "State x(k)"
        stems := stems states
        legend := target.map fun target => ["target = " ++ Decimal.general target] },
      { title := "Optimal Control Sequence", xLabel := "Time step k", yLabel := "Control u(k)"
        stems := stems controls, legend := none }] }

def ofTrajectory (states controls : List Float) (target : Option Float) (title : String) :
    Except FigureError Figure :=
  if states.length = controls.length + 1 then ofStems states controls target title
  else .error (.lengthMismatch states.length controls.length)

/-- The entries of an array with a stem for each position along its first axis. -/
def stemNumbers (count : Nat) (array : Tensor Float) : Except FigureError (List Float) :=
  if array.data.size ≠ count then .error (.stemMismatch array.data.size count)
  else if 2 < array.shape.length then .error (.manyAxes count array.shape)
  else .ok array.data.toList

def targetOfValue : Value → Except FigureError (Option Float)
  | .null => .ok none
  | .text _ => .error .targetText
  | .list _ => .error (.targetType (Value.list []).typeName)
  | .mapping _ => .error (.targetType (Value.mapping []).typeName)
  | given => some <$> given.toReal.mapError FigureError.target

def titleOfValue : Value → String
  | .null => ""
  | given => given.plain

def ofValues (states controls target title : Value) : Except FigureError Figure := do
  let states ← states.toTensor.mapError FigureError.array
  let controls ← controls.toTensor.mapError FigureError.array
  match states.shape, controls.shape with
  | [], _ => throw .noAxis
  | _, [] => throw .noAxis
  | count :: _, steps :: _ =>
      if count ≠ steps + 1 then throw (.lengthMismatch count steps)
      let stateNumbers ← stemNumbers count states
      let target ← targetOfValue target
      let controlNumbers ← if steps = 0 then pure [] else stemNumbers steps controls
      ofStems stateNumbers controlNumbers target (titleOfValue title)

end Figure

end BellmanGrid
