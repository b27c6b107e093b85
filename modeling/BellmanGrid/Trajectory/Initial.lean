import BellmanGrid.Number.Basic
import BellmanGrid.Value.Conversion

/-!
Initial states given as values.
-/

namespace BellmanGrid

inductive InitialStateError where
  | notReal (given : Value)
  | notFinite (what : NonFinite)
  /-- an integer that no double holds -/
  | tooLarge
  /-- a value that is no number and has no texts -/
  | unwritable

instance : Reportable InitialStateError where
  kind
    | .tooLarge => .overflow
    | .unwritable => .value
    | _ => .invalidInitialState
  message
    | .notReal given => s!"initial state must be a real number, got {given.literal}"
    | .notFinite what => s!"initial state must be finite, got {what.text}"
    | .tooLarge => message ConversionError.tooLarge
    | .unwritable => message ConversionError.unwritable

/-- Accepts a value that stands for a finite number as an initial state. -/
def checkInitialState (given : Value) : Except InitialStateError Float :=
  match given.toReal with
  | .error .tooLarge => .error .tooLarge
  | .error _ => if given.isWritable then .error (.notReal given) else .error .unwritable
  | .ok number =>
      match NonFinite.ofFloat? number with
      | some what => .error (.notFinite what)
      | none => .ok number

end BellmanGrid
