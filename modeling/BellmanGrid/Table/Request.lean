import BellmanGrid.Index.Selection
import BellmanGrid.Table.Access
import BellmanGrid.Value.Comparison

/-!
Tables whose sizes, states and times are given as values.

An integer time and an integer state, or a slice of states, name rows of one column, and the write
is that of `setStage`.  Any other selector selects cells as it would of any array with the states
along its first axis and the times along its second.
-/

namespace BellmanGrid

/-- Why a table cannot be made, written or read as asked. -/
inductive TableRequestError where
  | incomparable (cause : Incomparable)
  | statesNotPositive (given : Value)
  | horizonNegative (given : Value)
  | conversion (cause : ConversionError)
  /-- a truth value where a size is needed -/
  | flagAsSize
  /-- a value of a type that no size has -/
  | notASize (typeName : String)
  | stageOutside (time : Value) (horizon : Nat)
  | selection (cause : SelectionError)
  | table (cause : TableError)
  /-- a value that does not fill the cells that an array selects -/
  | valueMisfit (source target : List Nat)

instance : Reportable TableRequestError where
  kind
    | .incomparable cause => kind cause
    | .conversion cause => kind cause
    | .flagAsSize => .type
    | .notASize _ => .type
    | .stageOutside _ _ => .index
    | .selection cause => kind cause
    | .table cause => kind cause
    | _ => .value
  message
    | .incomparable cause => message cause
    | .statesNotPositive given => s!"n_states must be positive, got {given.plain}"
    | .horizonNegative given => s!"horizon must be non-negative, got {given.plain}"
    | .conversion cause => message cause
    | .flagAsSize => "an integer is required"
    | .notASize typeName => s!"'{typeName}' object cannot be interpreted as an integer"
    | .stageOutside time horizon => s!"stage index {time.plain} outside [0, {horizon})"
    | .selection cause => message cause
    | .table cause => message cause
    | .valueMisfit source target =>
        s!"shape mismatch: value array of shape {denseShapeText source} could not be broadcast " ++
          s!"to indexing result of shape {denseShapeText target}"

namespace Table

/-- A size along an axis; a truth value is none. -/
def sizeOfValue : Value → Except TableRequestError Int
  | .integer size => .ok size
  | .boolean _ => .error .flagAsSize
  | given => .error (.notASize given.typeName)

/-- The size along the axis of costs, which is one more than the horizon. -/
def costAxisOfValue : Value → Except TableRequestError Int
  | .boolean flag => .ok (if flag then 2 else 1)
  | given => return (← sizeOfValue given) + 1

def sizeOfValues (states horizon : Value) : Except TableRequestError (Nat × Nat) := do
  if ← (states.isAtMost 0 "int").mapError TableRequestError.incomparable then
    throw (.statesNotPositive states)
  if ← (horizon.isBelow 0 "int").mapError TableRequestError.incomparable then
    throw (.horizonNegative horizon)
  discard (states.toInteger.mapError TableRequestError.conversion)
  discard (horizon.toInteger.mapError TableRequestError.conversion)
  let rows ← sizeOfValue states
  let columns ← costAxisOfValue horizon
  let size ← (checkSize rows (columns - 1)).mapError TableRequestError.table
  discard (sizeOfValue horizon)
  return size

variable {α : Type} {states horizon : Nat}

def cellOf {count : Nat} (columns : Vector (Vector (Option α) states) count) :
    List Nat → Option α
  | [row, column] => (columns[column]?).bind fun cells => (cells[row]?).join
  | _ => none

def setCell {count : Nat} (columns : Vector (Vector (Option α) states) count) (number : α) :
    List Nat → Vector (Vector (Option α) states) count
  | [row, column] =>
      if hcell : column < count ∧ row < states then
        columns.set column (columns[column].set row (some number) hcell.2) hcell.1
      else columns
  | _ => columns

def selectorOf (value : Value) : Except TableRequestError Selector :=
  (Selector.ofValue value).mapError TableRequestError.selection

/-- The content of the one cell that two selectors select. -/
def selectedCell {count : Nat} (columns : Vector (Vector (Option α) states) count)
    (state time : Selector) : Except TableRequestError (Option α) := do
  return cellOf columns
    (← (selectCell [states, count] [state, time]).mapError TableRequestError.selection)

def costOf (table : Table α states horizon) (state time : Value) :
    Except TableRequestError (Option α) := do
  match ← selectorOf state, ← selectorOf time with
  | .position state, .position time =>
      (table.costAt state time).mapError TableRequestError.table
  | state, time => selectedCell table.cost state time

def controlOf (table : Table α states horizon) (state time : Value) :
    Except TableRequestError (Option α) := do
  match ← selectorOf state, ← selectorOf time with
  | .position state, .position time =>
      (table.controlAt state time).mapError TableRequestError.table
  | state, time => selectedCell table.policy state time

/-- The costs stored for a time, or for all times that a value selects: a shape and the cells of it
in row-major order. -/
def costColumnOf (table : Table α states horizon) (time : Value) :
    Except TableRequestError (List Nat × List (Option α)) := do
  match ← selectorOf time with
  | .position time => do
      let column ← (table.costColumn time).mapError TableRequestError.table
      return ([states], column.toList)
  | selector => do
      let selection ← (select [states, horizon + 1] [.all, selector]).mapError
        TableRequestError.selection
      return (selection.shape, selection.cells.map (cellOf table.cost))

/-- The numbers that a value stores in cells that an array selects.  All of the value is read before
anything is stored. -/
def numbersForArray (target : List Nat) (value : Value) :
    Except TableRequestError (List Float) := do
  let given ← value.toTensor.mapError fun cause => .table (.array cause)
  let surplus := given.shape.take (given.shape.length - target.length)
  let stripped := given.shape.drop (surplus.takeWhile (· == 1)).length
  if hsize : given.data.size = extent stripped then
    if let some expanded := (Tensor.mk stripped given.data hsize).expand? target then
      return expanded.data.toList
  throw (.valueMisfit given.shape target)

def assignCells {count : Nat} (columns : Vector (Vector (Option Float) states) count)
    (selectors : List Selector) (value : Value) :
    Vector (Vector (Option Float) states) count × Except TableRequestError Unit :=
  match select [states, count] selectors with
  | .error cause => (columns, .error (.selection cause))
  | .ok selection =>
      let (numbers, outcome) :=
        if selectors.any Selector.isArray then
          match numbersForArray selection.shape value with
          | .ok numbers => (numbers, .ok ())
          | .error error => ([], .error error)
        else
          let (numbers, outcome) := numbersFor selection.shape value
          (numbers, outcome.mapError TableRequestError.table)
      ((selection.cells.zip numbers).foldl (fun columns (cell, number) =>
        setCell columns number cell) columns, outcome)

/-- Stores costs and controls in the cells that two selectors select. -/
def setSelected (table : Table Float states horizon) (rows time : Selector)
    (costs controls : Value) : Table Float states horizon × Except TableRequestError Unit :=
  let (cost, outcome) := assignCells table.cost [rows, time] costs
  match outcome with
  | .error cause => ({ table with cost }, .error cause)
  | .ok () =>
      let (policy, outcome) := assignCells table.policy [rows, time] controls
      ({ table with cost, policy }, outcome)

/-- Stores costs and controls of one time, given as a value, in the rows that a selector selects. -/
def setStageOf (table : Table Float states horizon) (time : Value)
    (rows : Except SelectionError Selector) (costs controls : Value) :
    Table Float states horizon × Except TableRequestError Unit :=
  let refused (error : TableRequestError) := (table, Except.error error)
  match time.isWithin horizon with
  | .error cause => refused (.incomparable cause)
  | .ok false => refused (.stageOutside time horizon)
  | .ok true =>
      let selectors : Except SelectionError (Selector × Selector) :=
        return (← rows, ← Selector.ofValue time)
      let stage (stage : Int) (rows : Rows) :=
        let (table, outcome) := table.setStage stage rows costs controls
        (table, outcome.mapError TableRequestError.table)
      match selectors with
      | .error cause => refused (.selection cause)
      | .ok (.position row, .position time) => stage time (.single row)
      | .ok (.slice start stop step, .position time) =>
          match Slice.ofValues start stop step with
          | .error cause => refused (.selection cause)
          | .ok slice => stage time (.slice slice)
      | .ok (rows, time) => table.setSelected rows time costs controls

end Table

end BellmanGrid
