import BellmanGrid.Value.Conversion

/-!
Comparisons of values with integers.

Integers, doubles and truth values are compared exactly; a value of any other type has no order.
-/

namespace BellmanGrid

/-- A comparison of two things that have no order. -/
structure Incomparable where
  sign : String
  left : String
  right : String
deriving Repr, DecidableEq

instance : Reportable Incomparable where
  kind _ := .type
  message error :=
    s!"'{error.sign}' not supported between instances of '{error.left}' and '{error.right}'"

namespace Value

/-- How a value with an order stands to an integer; what is no number stands in no relation. -/
def compareInteger? (value : Value) (bound : Int) : Option (Option Ordering) :=
  match value with
  | boolean flag => some (some (compare (if flag then 1 else 0) bound))
  | integer given => some (some (compare given bound))
  | real number =>
      some (match Reading.ofFloat number with
        | .finite finite =>
            let exact := finite.toRat
            some (if exact < bound then .lt else if exact = bound then .eq else .gt)
        | .infinite negative => some (if negative then .lt else .gt)
        | .notANumber => none)
  | _ => none

/-- Is a value below a bound?  The name is that of the bound's type. -/
def isBelow (value : Value) (bound : Int) (boundType : String) : Except Incomparable Bool :=
  match value.compareInteger? bound with
  | some ordering => .ok (ordering == some .lt)
  | none => .error ⟨"<", value.typeName, boundType⟩

def isAtMost (value : Value) (bound : Int) (boundType : String) : Except Incomparable Bool :=
  match value.compareInteger? bound with
  | some ordering => .ok (ordering == some .lt || ordering == some .eq)
  | none => .error ⟨"<=", value.typeName, boundType⟩

/-- Is a value at least zero and below a size? -/
def isWithin (value : Value) (size : Nat) : Except Incomparable Bool :=
  match value.compareInteger? 0 with
  | some ordering =>
      .ok ((ordering == some .gt || ordering == some .eq) &&
        value.compareInteger? size == some (some .lt))
  | none => .error ⟨"<=", "int", value.typeName⟩

end Value

end BellmanGrid
