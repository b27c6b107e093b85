import BellmanGrid.Table.Basic

/-!
Reading and writing tables.

Writes hand back the table also when they fail: costs are stored before controls, and the items of
a list are stored one by one, so what was stored before the failure stays stored.
-/

namespace BellmanGrid

/-- The rows that a stage is written to: one row, or a slice of rows. -/
inductive Rows where
  | single (index : Int)
  | slice (selection : Slice)
deriving Repr, DecidableEq

namespace Table

variable {α : Type} {states horizon : Nat}

/-- The cost stored for a state and a time; both may be counted from the back. -/
def costAt (table : Table α states horizon) (state time : Int) :
    Except TableError (Option α) := do
  let row ← (position 0 states state).mapError TableError.index
  let column ← (position 1 (horizon + 1) time).mapError TableError.index
  return (table.cost.get column).get row

/-- The control stored for a state and a time; both may be counted from the back. -/
def controlAt (table : Table α states horizon) (state time : Int) :
    Except TableError (Option α) := do
  let row ← (position 0 states state).mapError TableError.index
  let column ← (position 1 horizon time).mapError TableError.index
  return (table.policy.get column).get row

def costColumn (table : Table α states horizon) (time : Int) :
    Except TableError (Vector (Option α) states) := do
  let column ← (position 1 (horizon + 1) time).mapError TableError.index
  return table.cost.get column

/-- Stores numbers in rows, one after the other, until either runs out. -/
def writeRows (column : Vector (Option α) states) :
    List (Fin states) → List α → Vector (Option α) states
  | row :: rows, number :: numbers => writeRows (column.set row (some number) row.isLt) rows numbers
  | _, _ => column

/-- Stores numbers as the costs of the last time, once and for all states. -/
def storeTerminal (table : Table α states horizon) (costs : List α) :
    Except TableError (Table α states horizon) :=
  if table.terminalSet then .error .terminalAlreadySet
  else if hlength : costs.length = states then
    let column : Vector (Option α) states := (Vector.mk costs.toArray (by simpa)).map some
    .ok { table with
      cost := table.cost.set horizon column (Nat.lt_succ_self horizon)
      terminalSet := true }
  else .error (.terminalShape states [costs.length])

/-- The rows from `start` up to but not including `stop`, as far as the table has them. -/
def rowsBetween (states start stop : Nat) : List (Fin states) :=
  (List.range (stop - start)).filterMap fun offset =>
    if hrow : start + offset < states then some ⟨start + offset, hrow⟩ else none

def withColumns (table : Table α states horizon) (time : Fin horizon)
    (costs controls : Vector (Option α) states) : Table α states horizon :=
  { table with
    cost := table.cost.set time costs
    policy := table.policy.set time controls }

section WithColumns

variable (table : Table α states horizon) (time : Fin horizon)
  (costs controls : Vector (Option α) states)

theorem withColumns_self :
    table.withColumns time (table.cost.get time.castSucc) (table.policy.get time) = table := by
  have hcost : table.cost.set time.val (table.cost.get time.castSucc)
      (Nat.lt_succ_of_lt time.isLt) = table.cost := Vector.set_getElem_self _
  have hpolicy : table.policy.set time.val (table.policy.get time) time.isLt = table.policy :=
    Vector.set_getElem_self _
  rw [withColumns, hcost, hpolicy]

@[simp]
theorem withColumns_withColumns (laterCosts laterControls : Vector (Option α) states) :
    (table.withColumns time costs controls).withColumns time laterCosts laterControls =
      table.withColumns time laterCosts laterControls := by
  simp only [withColumns, Vector.set_set]

@[simp]
theorem get_cost_withColumns :
    (table.withColumns time costs controls).cost.get time.castSucc = costs :=
  Vector.getElem_set_self _

@[simp]
theorem get_policy_withColumns :
    (table.withColumns time costs controls).policy.get time = controls :=
  Vector.getElem_set_self _

theorem cost_withColumns_of_ne {later : Nat} (hne : time.val ≠ later)
    (hlater : later < horizon + 1) :
    (table.withColumns time costs controls).cost[later] = table.cost[later] :=
  Vector.getElem_set_ne (Nat.lt_succ_of_lt time.isLt) hlater hne

theorem get_cost_withColumns_succ :
    (table.withColumns time costs controls).cost.get time.succ = table.cost.get time.succ :=
  cost_withColumns_of_ne table time costs controls (Nat.ne_of_lt (Nat.lt_succ_self _))
    time.succ.isLt

theorem policy_withColumns_of_ne {later : Nat} (hne : time.val ≠ later)
    (hlater : later < horizon) :
    (table.withColumns time costs controls).policy[later] = table.policy[later] :=
  Vector.getElem_set_ne time.isLt hlater hne

end WithColumns

/-- Stores costs and controls of one time in the rows from `start` up to but not including
`stop`. -/
def storeStage (table : Table α states horizon) (time start stop : Nat) (costs controls : List α) :
    Except TableError (Table α states horizon) :=
  if htime : time < horizon then
    let rows := rowsBetween states start stop
    if costs.length ≠ rows.length then .error (.shapeMismatch [costs.length] [rows.length])
    else if controls.length ≠ rows.length then
      .error (.shapeMismatch [controls.length] [rows.length])
    else
      let stage : Fin horizon := ⟨time, htime⟩
      .ok (table.withColumns stage (writeRows (table.cost.get stage.castSucc) rows costs)
        (writeRows (table.policy.get stage) rows controls))
  else .error (.stageOutside time horizon)

/-- Reads entries up to the first one that is no number. -/
def readEntries : List Value → List Float × Except TableError Unit
  | [] => ([], .ok ())
  | value :: rest =>
      match value.entryToReal with
      | .error cause => ([], .error (.entry (.conversion cause)))
      | .ok number =>
          let (numbers, outcome) := readEntries rest
          (number :: numbers, outcome)

/-- The numbers that a value stores in cells of a shape, and whether all of it could be read.  A
list of that shape is read item by item; anything that fits the shape otherwise is repeated. -/
def numbersFor (target : List Nat) (value : Value) : List Float × Except TableError Unit :=
  match value.shape target.length with
  | .error cause => ([], .error (.array cause))
  | .ok shape =>
      let (numbers, outcome) := readEntries value.entries
      if shape = target then (numbers, outcome)
      else match outcome with
        | .error cause => ([], .error cause)
        | .ok () =>
            if hsize : numbers.toArray.size = extent shape then
              match (Tensor.mk shape numbers.toArray hsize).expand? target with
              | some expanded => (expanded.data.toList, .ok ())
              | none => ([], .error (.shapeMismatch shape target))
            else ([], .error (.shapeMismatch shape target))

def assign (column : Vector (Option Float) states) (rows : Rows) (value : Value) :
    Vector (Option Float) states × Except TableError Unit :=
  match rows with
  | .single index =>
      match position 0 states index with
      | .error cause => (column, .error (.index cause))
      | .ok row =>
          match value.toEntry with
          | .error cause => (column, .error (.entry cause))
          | .ok number => (column.set row (some number) row.isLt, .ok ())
  | .slice selection =>
      match selection.positions? states with
      | none => (column, .error .zeroStep)
      | some selected =>
          let (numbers, outcome) := numbersFor [selected.length] value
          (writeRows column selected numbers, outcome)

theorem size_of_shape {costs : Tensor Float} (hshape : costs.shape = [states]) :
    costs.data.size = states := by
  rw [costs.size_eq, hshape]
  simp [extent]

/-- Stores a value as the costs of the last time, once and for all states. -/
def setTerminal (table : Table Float states horizon) (value : Value) :
    Table Float states horizon × Except TableError Unit :=
  if table.terminalSet then (table, .error .terminalAlreadySet)
  else match value.toTensor with
    | .error cause => (table, .error (.array cause))
    | .ok costs =>
        if hshape : costs.shape = [states] then
          let column : Vector (Option Float) states :=
            (Vector.mk costs.data (size_of_shape hshape)).map some
          ({ table with
              cost := table.cost.set horizon column (Nat.lt_succ_self horizon)
              terminalSet := true }, .ok ())
        else (table, .error (.terminalShape states costs.shape))

/-- Stores costs and controls of one time in the given rows. -/
def setStage (table : Table Float states horizon) (time : Int) (rows : Rows)
    (costs controls : Value) : Table Float states horizon × Except TableError Unit :=
  if htime : 0 ≤ time ∧ time < horizon then
    have hstage : time.toNat < horizon := by omega
    let (costColumn, outcome) := assign table.cost[time.toNat] rows costs
    let stored := { table with cost := table.cost.set time.toNat costColumn }
    match outcome with
    | .error cause => (stored, .error cause)
    | .ok () =>
        let (policyColumn, outcome) := assign table.policy[time.toNat] rows controls
        ({ stored with policy := stored.policy.set time.toNat policyColumn }, outcome)
  else (table, .error (.stageOutside time horizon))

end Table

end BellmanGrid
