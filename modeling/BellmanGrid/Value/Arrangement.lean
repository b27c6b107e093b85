import BellmanGrid.Tensor.Basic
import BellmanGrid.Value.Conversion

/-!
Values read as rectangular arrays of numbers.

The shape is found before any entry is converted, on a walk that goes down first.  The walk settles
the shape at the first entry that is no list; every later list and entry must then agree with it.
An absent entry is read as no number.
-/

namespace BellmanGrid

inductive ArrayError where
  /-- lists of different lengths or depths, with the part of the shape that they agree on -/
  | ragged (shape : List Nat)
  /-- lists below the deepest axis that is allowed -/
  | tooDeep (limit : Nat)
  /-- an entry that is no number -/
  | entry (cause : ConversionError)
deriving Repr, DecidableEq

instance : Reportable ArrayError where
  kind
    | .ragged _ => .value
    | .tooDeep _ => .value
    | .entry cause => kind cause
  message
    | .ragged shape =>
        "setting an array element with a sequence. The requested array has an inhomogeneous " ++
          s!"shape after {shape.length} dimensions. The detected shape was {shapeText shape} + " ++
          "inhomogeneous part."
    | .tooDeep limit =>
        "setting an array element with a sequence. The requested array would exceed the " ++
          s!"maximum number of dimension of {limit}."
    | .entry cause => message cause

inductive EntryError where
  | list
  | conversion (cause : ConversionError)
deriving Repr, DecidableEq

instance : Reportable EntryError where
  kind
    | .list => .value
    | .conversion cause => kind cause
  message
    | .list => "setting an array element with a sequence."
    | .conversion cause => message cause

/-- What is known of a shape on the walk: at most `limit` axes, the extents so far, whether an entry
has settled them, and whether something disagreed. -/
structure ShapeSearch where
  limit : Nat
  shape : List Nat
  settled : Bool
  ragged : Bool
deriving Repr, DecidableEq

namespace ShapeSearch

/-- The walk meets an entry at a depth, which must be the depth of all other entries. -/
def entry (depth : Nat) (search : ShapeSearch) : ShapeSearch :=
  if search.limit = depth then { search with settled := true }
  else { search with limit := depth, ragged := search.ragged || search.settled, settled := true }

/-- The walk meets a list of `size` items above the limit; the flag says to go on into it. -/
def list (depth size : Nat) (search : ShapeSearch) : ShapeSearch × Bool :=
  if search.settled then
    if search.shape[depth]? = some size then (search, true)
    else ({ search with limit := depth, ragged := true }, false)
  else ({ search with shape := search.shape.take depth ++ [size] }, true)

/-- The walk meets an empty list, below which no entry can be. -/
def empty (depth : Nat) (search : ShapeSearch) : ShapeSearch :=
  { search with limit := depth + 1, settled := true }

end ShapeSearch

namespace Value

def items? : Value → Option (List Value)
  | list items => some items
  | tuple items => some items
  | _ => none

mutual

def findShape (depth : Nat) : Value → ShapeSearch → ShapeSearch
  | list items, search => findListShape depth items search
  | tuple items, search => findListShape depth items search
  | _, search => search.entry depth

def findListShape (depth : Nat) (items : List Value) (search : ShapeSearch) : ShapeSearch :=
  if search.limit = depth then { search.entry depth with ragged := true }
  else
    let (search, inside) := search.list depth items.length
    if inside then
      if items.isEmpty then search.empty depth else findShapes (depth + 1) items search
    else search

/-- Walks over the items of a list, all of them at one depth. -/
def findShapes (depth : Nat) : List Value → ShapeSearch → ShapeSearch
  | [], search => search
  | item :: rest, search => findShapes depth rest (findShape depth item search)

end

mutual

/-- The entries of nested lists in order. -/
def entries : Value → List Value
  | list items => listEntries items
  | tuple items => listEntries items
  | value => [value]

def listEntries : List Value → List Value
  | [] => []
  | item :: rest => entries item ++ listEntries rest

end

/-- The shape of nested lists with at most `limit` axes. -/
def shape (limit : Nat) (value : Value) : Except ArrayError (List Nat) :=
  let search := findShape 0 value ⟨limit, [], false, false⟩
  let shape := search.shape.take search.limit
  if search.ragged then
    .error (if search.limit = limit then .tooDeep limit else .ragged shape)
  else .ok shape

/-- An entry of an array as a number; an absent one is no number. -/
def entryToReal : Value → Except ConversionError Float
  | null => .ok (0.0 / 0.0)
  | value => value.toReal

/-- The number that a value is stored as in one place of an array. -/
def toEntry (value : Value) : Except EntryError Float :=
  match value.items? with
  | some _ => .error .list
  | none => value.entryToReal.mapError EntryError.conversion

/-- The largest number of axes of an array. -/
def axisLimit : Nat :=
  64

def toTensor (value : Value) : Except ArrayError (Tensor Float) := do
  let shape ← value.shape axisLimit
  let numbers ← (value.entries.mapM entryToReal).mapError ArrayError.entry
  if hsize : numbers.toArray.size = extent shape then return ⟨shape, numbers.toArray, hsize⟩
  else throw (.ragged shape)

/-- Does an entry belong to an array of complex numbers, if one of the entries is complex? -/
def mayBeComplex : Value → Bool
  | boolean _ => true
  | integer value => -(Int.pow 2 63) ≤ value ∧ value < Int.pow 2 64
  | real _ => true
  | complex _ _ => true
  | _ => false

/-- Is a value an array of complex numbers?  The question needs a shape. -/
def isComplexArray (value : Value) : Except ArrayError Bool := do
  discard (value.shape axisLimit)
  let isComplex : Value → Bool
    | complex _ _ => true
    | _ => false
  return value.entries.all mayBeComplex && value.entries.any isComplex

end Value

end BellmanGrid
