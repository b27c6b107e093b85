import BellmanGrid.Index
import BellmanGrid.Number.Basic
import BellmanGrid.Storage
import BellmanGrid.Value.Arrangement

/-!
Tables of costs-to-go and controls over the states of a grid and the times of a horizon.

A table holds one column of cells for each time: costs for the times `0` to `horizon`, controls for
the times before the horizon.  A cell is unset until something is written to it.  The number of
states and the horizon belong to the type, so no write can change the shape.
-/

namespace BellmanGrid

inductive TableError where
  | statesNotPositive (states : Int)
  | horizonNegative (horizon : Int)
  | storage (cause : Storage.StorageError)
  | terminalAlreadySet
  | terminalShape (states : Nat) (shape : List Nat)
  | stageOutside (time : Int) (horizon : Nat)
  | index (cause : IndexError)
  | zeroStep
  | entry (cause : EntryError)
  | array (cause : ArrayError)
  /-- entries that do not fill the cells they are written to -/
  | shapeMismatch (source target : List Nat)
deriving Repr, DecidableEq

instance : Reportable TableError where
  kind
    | .storage cause => kind cause
    | .terminalAlreadySet => .runtime
    | .stageOutside _ _ => .index
    | .index cause => kind cause
    | .entry cause => kind cause
    | .array cause => kind cause
    | _ => .value
  message
    | .statesNotPositive states => s!"n_states must be positive, got {states}"
    | .horizonNegative horizon => s!"horizon must be non-negative, got {horizon}"
    | .storage cause => message cause
    | .terminalAlreadySet => "terminal cost column is already set"
    | .terminalShape states shape =>
        s!"terminal column must have shape ({states},), got {shapeText shape}"
    | .stageOutside time horizon => s!"stage index {time} outside [0, {horizon})"
    | .index cause => message cause
    | .zeroStep => "slice step cannot be zero"
    | .entry cause => message cause
    | .array cause => message cause
    | .shapeMismatch source target =>
        s!"could not broadcast input array from shape {denseShapeText source} into shape " ++
          denseShapeText target

/-- Costs and controls, a column of cells for each time. -/
structure Table (α : Type) (states horizon : Nat) where
  cost : Vector (Vector (Option α) states) (horizon + 1)
  policy : Vector (Vector (Option α) states) horizon
  terminalSet : Bool

namespace Table

variable {α : Type} {states horizon : Nat}

/-- The table in which every cell is unset. -/
def blank : Table α states horizon where
  cost := Vector.replicate (horizon + 1) (Vector.replicate states none)
  policy := Vector.replicate horizon (Vector.replicate states none)
  terminalSet := false

/-- Accepts the size of a table: at least one state, a horizon that is not negative, and no more
cells than can be stored. -/
def checkSize (states horizon : Int) : Except TableError (Nat × Nat) := do
  if states ≤ 0 then throw (.statesNotPositive states)
  if horizon < 0 then throw (.horizonNegative horizon)
  (Storage.check [states.toNat, horizon.toNat + 1]).mapError TableError.storage
  return (states.toNat, horizon.toNat)

theorem checkSize_eq_ok_iff {states horizon : Nat} {size : Nat × Nat} :
    checkSize states horizon = .ok size ↔
      0 < states ∧ Storage.check [states, horizon + 1] = .ok () ∧ size = (states, horizon) := by
  have hhorizon : ¬ (horizon : Int) < 0 := by omega
  rw [checkSize]
  by_cases hstates : (states : Int) ≤ 0
  · have hzero : ¬ 0 < states := by omega
    rw [if_pos hstates]
    simp only [hzero, false_and, iff_false]
    intro hsize
    cases hsize
  · have hpos : 0 < states := by omega
    simp only [if_neg hstates, if_neg hhorizon, Int.toNat_natCast, hpos, true_and]
    cases Storage.check [states, horizon + 1] with
    | error cause =>
        constructor
        · intro hsize
          cases hsize
        · rintro ⟨hgranted, _⟩
          cases hgranted
    | ok granted =>
        show Except.ok (states, horizon) = .ok size ↔ _
        simp [eq_comm]

variable [Number α]

/-- Does a cell hold a finite number? -/
def isFilled (cell : Option α) : Bool :=
  cell.any Number.isFinite

def filledInColumn (column : Vector (Option α) states) : Nat :=
  column.toArray.countP isFilled

/-- The number of filled cells among costs and controls. -/
def filledCount (table : Table α states horizon) : Nat :=
  let count := fun cells column => cells + filledInColumn column
  table.policy.toList.foldl count (table.cost.toList.foldl count 0)

def cellCount (_table : Table α states horizon) : Nat :=
  states * (horizon + 1) + states * horizon

def filledFraction (table : Table α states horizon) : Float :=
  nearest false table.filledCount table.cellCount

/-- Is every cell filled? -/
def isComplete (table : Table α states horizon) : Bool :=
  table.cost.toArray.all (fun column => column.toArray.all isFilled) &&
    table.policy.toArray.all (fun column => column.toArray.all isFilled)

/-- The size of the cells in bytes. -/
def memoryUsage (table : Table α states horizon) : Nat :=
  8 * table.cellCount

/-- A short text with the size and the share of filled cells. -/
def description (table : Table α states horizon) : String :=
  s!"DPTable(states={states}, horizon={horizon}, filled={Decimal.percent table.filledFraction}, " ++
    s!"mem={Decimal.fixed 1 (nearest false table.memoryUsage 1024)} KiB)"

/-- A cell as a number; an unset one is shown as no number. -/
def shown (cell : Option Float) : Float :=
  cell.getD (0.0 / 0.0)

def rowOf {count : Nat} (columns : Vector (Vector (Option α) states) count) (state : Fin states) :
    List (Option α) :=
  columns.toList.map fun column => column.get state

end Table

end BellmanGrid
