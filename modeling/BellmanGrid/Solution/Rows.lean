import BellmanGrid.Solution.Basic

/-!
The trajectory as a table with the columns `k`, `x` and `u`, and that table as text.

There is a row for each time.  The last time has no control, and no number stands in its place; in
the text a field is left empty where there is no number.
-/

namespace BellmanGrid

namespace Trajectory

/-- One time of a trajectory. -/
structure Row where
  time : Nat
  state : Float
  control : Float
deriving Repr, DecidableEq

/-- What stands in the place of a control where there is none. -/
def absent : Float :=
  0.0 / 0.0

def columns : List String :=
  ["k", "x", "u"]

def rows (trajectory : Trajectory Float) : List Row :=
  (trajectory.states.zip (trajectory.controls ++ [absent])).mapIdx fun time (state, control) =>
    ⟨time, state, control⟩

/-- Is a quantity no number? -/
def isAbsent (quantity : Float) : Bool :=
  NonFinite.ofFloat? quantity = some .notANumber

/-- The field of a quantity, given a text for quantities; what is no number leaves it empty. -/
def field (text : Float → String) (quantity : Float) : String :=
  if isAbsent quantity then "" else text quantity

def Row.fields (text : Float → String) (row : Row) : List String :=
  [Nat.repr row.time, field text row.state, field text row.control]

/-- A line with commas between its fields, and its end. -/
def line (fields : List String) : String :=
  ",".intercalate fields ++ "\n"

/-- The names of the columns and the rows, a line for each, with a text for quantities. -/
def written (text : Float → String) (trajectory : Trajectory Float) : String :=
  String.join ((columns :: trajectory.rows.map (Row.fields text)).map line)

/-- The table with the usual texts of its quantities. -/
def document (trajectory : Trajectory Float) : String :=
  trajectory.written Decimal.text

end Trajectory

end BellmanGrid
