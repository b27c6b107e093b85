import BellmanGrid.Index
import BellmanGrid.Value.Arrangement

/-!
Values used as indices.

A value that can select along axes is an integer, a slice, nothing at all, which adds an axis, an
array of integers, or an array of truth values.  Which of these a value is gets settled before any
axis is looked at.
-/

namespace BellmanGrid

inductive SelectionError where
  | outOfBounds (cause : IndexError)
  /-- a value that is no index -/
  | notAnIndex
  /-- an integer that an array holds and that is no position -/
  | tooLarge
  /-- lists that are no array -/
  | array (cause : ArrayError)
  | sliceBound
  | zeroStep
  /-- more axes than there are -/
  | tooManyAxes (axes used : Nat)
  /-- truth values for another number of positions than the axis has -/
  | maskSize (axis size given : Nat)
  /-- arrays of positions that fit no common shape -/
  | shapes (arrays : List (List Nat))
  /-- a selection of anything but one cell, where one cell is read -/
  | manyCells
deriving Repr, DecidableEq

instance : Reportable SelectionError where
  kind
    | .outOfBounds cause => kind cause
    | .notAnIndex => .index
    | .tooLarge => .overflow
    | .array cause => kind cause
    | .sliceBound => .type
    | .zeroStep => .value
    | .tooManyAxes _ _ => .index
    | .maskSize _ _ _ => .index
    | .shapes _ => .index
    | .manyCells => .type
  message
    | .outOfBounds cause => message cause
    | .notAnIndex =>
        "only integers, slices (\x60:\x60), ellipsis (\x60...\x60), numpy.newaxis " ++
          "(\x60None\x60) and integer or boolean arrays are valid indices"
    | .tooLarge => "Python int too large to convert to C long"
    | .array cause => message cause
    | .sliceBound => "slice indices must be integers or None or have an __index__ method"
    | .zeroStep => "slice step cannot be zero"
    | .tooManyAxes axes used =>
        s!"too many indices for array: array is {axes}-dimensional, but {used} were indexed"
    | .maskSize axis size given =>
        s!"boolean index did not match indexed array along axis {axis}; size of axis is " ++
          s!"{size} but size of corresponding boolean axis is {given}"
    | .shapes arrays =>
        "shape mismatch: indexing arrays could not be broadcast together with shapes " ++
          String.join (arrays.map fun shape => denseShapeText shape ++ " ")
    | .manyCells => "only 0-dimensional arrays can be converted to Python scalars"

/-- What one index selects.  The bounds of a slice are looked at later. -/
inductive Selector where
  | position (index : Int)
  | slice (start stop step : Value)
  | newAxis
  | positions (shape : List Nat) (indices : List Int)
  /-- an array of truth values: the positions where it is true -/
  | mask (shape : List Nat) (flags : List Bool)

namespace Selector

def all : Selector :=
  slice .null .null .null

/-- The integers that an array of positions may hold; above the largest position they wrap. -/
def storedPosition (value : Int) : Int :=
  if value < Int.pow 2 63 then value else value - Int.pow 2 64

/-- Are integers held by one array: none below the lowest position, none past twice the highest one,
and none past the highest one together with one below zero? -/
def areStorable (values : List Int) : Bool :=
  values.all (fun value => -(Int.pow 2 63) ≤ value ∧ value < Int.pow 2 64) &&
    (values.all (· < Int.pow 2 63) || values.all (0 ≤ ·))

def flag? : Value → Option Bool
  | .boolean flag => some flag
  | _ => none

def integer? : Value → Option Int
  | .boolean flag => some (if flag then 1 else 0)
  | .integer value => some value
  | _ => none

def ofEntries (shape : List Nat) (entries : List Value) : Except SelectionError Selector :=
  if entries.isEmpty then .ok (positions shape [])
  else match entries.mapM flag?, entries.mapM integer? with
    | some flags, _ => .ok (mask shape flags)
    | none, some values =>
        if areStorable values then .ok (positions shape (values.map storedPosition))
        else .error .notAnIndex
    | none, none => .error .notAnIndex

def ofValue (value : Value) : Except SelectionError Selector :=
  match value with
  | .null => .ok newAxis
  | .integer index =>
      if -(Int.pow 2 63) ≤ index ∧ index < Int.pow 2 63 then .ok (position index)
      else if 0 ≤ index ∧ index < Int.pow 2 64 then .error .tooLarge
      else .error .notAnIndex
  | given => do
      let shape ← (given.shape Value.axisLimit).mapError SelectionError.array
      ofEntries shape given.entries

end Selector

namespace Slice

/-- A bound of a slice; nothing leaves it out. -/
def boundOfValue : Value → Except SelectionError (Option Int)
  | .null => .ok none
  | .integer value => .ok (some value)
  | .boolean flag => .ok (some (if flag then 1 else 0))
  | _ => .error .sliceBound

/-- The slice with bounds given as values.  The step is looked at first. -/
def ofValues (start stop step : Value) : Except SelectionError Slice := do
  let step ← boundOfValue step
  if step = some 0 then throw .zeroStep
  return { start := ← boundOfValue start, stop := ← boundOfValue stop, step }

end Slice

end BellmanGrid
