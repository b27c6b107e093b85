import BellmanGrid.Proofs.PointResults
import BellmanGrid.Proofs.SelectionSizes
import BellmanGrid.Proofs.TableHistory

/-!
What a stage stores, whatever the table holds.

A stage stores numbers in cells, one after the other, and neither the cells nor the numbers depend
on what the table holds.  So a stage lays the cells that it sets in a blank table over those of any
other one.
-/

namespace BellmanGrid

namespace Table

variable {α : Type} {states horizon count : Nat}

/-- Columns in which every cell is unset. -/
def unsetColumns (α : Type) (states count : Nat) : Vector (Vector (Option α) states) count :=
  Vector.replicate count (Vector.replicate states none)

/-- Columns laid over others: below a cell that is unset the other one shows. -/
def layOver (upper lower : Vector (Vector (Option α) states) count) :
    Vector (Vector (Option α) states) count :=
  Vector.ofFn fun time => Vector.ofFn fun row =>
    ((upper.get time).get row).or ((lower.get time).get row)

/-- A table laid over another one, which goes on to know what it knows of terminal costs. -/
def laidOver (upper lower : Table α states horizon) : Table α states horizon where
  cost := layOver upper.cost lower.cost
  policy := layOver upper.policy lower.policy
  terminalSet := lower.terminalSet

/-- Stores numbers in cells, one after the other. -/
def storeAll (columns : Vector (Vector (Option α) states) count) (stores : List (List Nat × α)) :
    Vector (Vector (Option α) states) count :=
  stores.foldl (fun columns store => setCell columns store.2 store.1) columns

/-! ### Columns laid over others -/

theorem columns_ext {first second : Vector (Vector (Option α) states) count}
    (hcells : ∀ time row, (first.get time).get row = (second.get time).get row) :
    first = second := by
  apply Vector.ext
  intro time htime
  apply Vector.ext
  intro row hrow
  exact hcells ⟨time, htime⟩ ⟨row, hrow⟩

@[simp]
theorem get_unsetColumns (time : Fin count) (row : Fin states) :
    ((unsetColumns α states count).get time).get row = none := by
  have hcolumn : (unsetColumns α states count).get time = Vector.replicate states none :=
    Vector.getElem_replicate _
  rw [hcolumn]
  exact Vector.getElem_replicate _

@[simp]
theorem get_layOver (upper lower : Vector (Vector (Option α) states) count) (time : Fin count)
    (row : Fin states) : ((layOver upper lower).get time).get row =
      ((upper.get time).get row).or ((lower.get time).get row) := by
  have hcolumn : (layOver upper lower).get time = Vector.ofFn fun row =>
      ((upper.get time).get row).or ((lower.get time).get row) := Vector.getElem_ofFn _
  rw [hcolumn]
  exact Vector.getElem_ofFn _

@[simp]
theorem layOver_unsetColumns (lower : Vector (Vector (Option α) states) count) :
    layOver (unsetColumns α states count) lower = lower :=
  columns_ext fun time row => by rw [get_layOver, get_unsetColumns, Option.none_or]

@[simp]
theorem blank_laidOver (table : Table α states horizon) : blank.laidOver table = table := by
  have hcost := layOver_unsetColumns table.cost
  have hpolicy := layOver_unsetColumns table.policy
  rw [unsetColumns] at hcost hpolicy
  rw [laidOver, blank, hcost, hpolicy]

/-! ### Numbers stored in cells -/

theorem get_setCell_self (columns : Vector (Vector (Option α) states) count) (number : α)
    (time : Fin count) (row : Fin states) :
    ((setCell columns number [row.val, time.val]).get time).get row = some number := by
  have hcolumn : (setCell columns number [row.val, time.val]).get time =
      columns[time.val].set row.val (some number) row.isLt := by
    rw [setCell, dif_pos ⟨time.isLt, row.isLt⟩]
    exact Vector.getElem_set_self _
  rw [hcolumn]
  exact Vector.getElem_set_self _

theorem setCell_layOver (upper lower : Vector (Vector (Option α) states) count) (number : α)
    (cell : List Nat) :
    setCell (layOver upper lower) number cell = layOver (setCell upper number cell) lower := by
  apply columns_ext
  intro time row
  rw [get_layOver]
  by_cases hcell : cell = [row.val, time.val]
  · subst hcell
    rw [get_setCell_self, get_setCell_self, Option.some_or]
  · rw [get_setCell _ _ hcell, get_setCell _ _ hcell, get_layOver]

theorem storeAll_layOver (upper lower : Vector (Vector (Option α) states) count)
    (stores : List (List Nat × α)) :
    storeAll (layOver upper lower) stores = layOver (storeAll upper stores) lower := by
  induction stores generalizing upper with
  | nil => rfl
  | cons store rest ih =>
      rw [storeAll, List.foldl_cons, setCell_layOver]
      exact ih _

/-- What is stored does not depend on what the columns hold. -/
theorem storeAll_eq_layOver (columns : Vector (Vector (Option α) states) count)
    (stores : List (List Nat × α)) :
    storeAll columns stores = layOver (storeAll (unsetColumns α states count) stores) columns := by
  rw [← storeAll_layOver, layOver_unsetColumns]

/-- A cell is set by the stores that name it. -/
theorem isSome_storeAll_iff (stores : List (List Nat × α)) (time : Fin count) (row : Fin states) :
    (((storeAll (unsetColumns α states count) stores).get time).get row).isSome = true ↔
      [row.val, time.val] ∈ stores.map Prod.fst := by
  induction stores using List.reverseRecOn with
  | nil => simp [storeAll]
  | append_singleton earlier store ih =>
      rw [storeAll, List.foldl_append, List.foldl_cons, List.foldl_nil, List.map_append,
        List.mem_append, List.map_singleton, List.mem_singleton]
      by_cases hcell : store.1 = [row.val, time.val]
      · rw [hcell, get_setCell_self]
        simp
      · rw [get_setCell _ _ hcell]
        simp only [Ne.symm hcell, or_false]
        exact ih

/-! ### Numbers that a value stores -/

theorem length_readEntries {entries : List Value} (hread : (readEntries entries).2 = .ok ()) :
    (readEntries entries).1.length = entries.length := by
  induction entries with
  | nil => rfl
  | cons entry rest ih =>
      rw [readEntries] at hread ⊢
      split at hread
      · cases hread
      · exact congrArg Nat.succ (ih hread)

/-- A value that can be read stores a number in every cell. -/
theorem length_numbersFor {target : List Nat} {value : Value}
    (hread : (numbersFor target value).2 = .ok ()) :
    (numbersFor target value).1.length = extent target := by
  rw [numbersFor] at hread ⊢
  cases hshape : value.shape target.length with
  | error cause =>
      rw [hshape] at hread
      cases hread
  | ok shape =>
      rw [hshape] at hread
      dsimp only at hread ⊢
      split at hread
      · next hsame =>
          rw [if_pos hsame]
          exact (length_readEntries hread).trans (hsame ▸ Value.length_entries hshape)
      · next hother =>
          rw [if_neg hother]
          split at hread
          · cases hread
          · split at hread
            · next hsize =>
                rw [dif_pos hsize]
                split at hread
                · next expanded hexpanded => exact Tensor.size_of_expand? hexpanded
                · cases hread
            · cases hread

theorem length_numbersForArray {target : List Nat} {value : Value} {numbers : List Float}
    (hnumbers : numbersForArray target value = .ok numbers) : numbers.length = extent target := by
  rw [numbersForArray, bind_eq_ok_iff] at hnumbers
  obtain ⟨given, _, hnumbers⟩ := hnumbers
  dsimp only at hnumbers
  split at hnumbers
  · split at hnumbers
    · next expanded hexpanded =>
        obtain rfl := Except.ok.inj hnumbers
        exact Tensor.size_of_expand? hexpanded
    · cases hnumbers
  · cases hnumbers

/-! ### Plans -/

/-- What is stored, number by number, and how that ends. -/
structure Plan where
  stores : List (List Nat × Float)
  outcome : Except TableRequestError Unit

namespace Plan

/-- The columns after a plan, and how it ends. -/
def carryOut (plan : Plan) (columns : Vector (Vector (Option Float) states) count) :
    Vector (Vector (Option Float) states) count × Except TableRequestError Unit :=
  (storeAll columns plan.stores, plan.outcome)

/-- A plan stores in given cells only, and in all of them unless it fails. -/
structure Fills (plan : Plan) (cells : List (List Nat)) : Prop where
  mem : ∀ cell ∈ plan.stores.map Prod.fst, cell ∈ cells
  filled : plan.outcome = .ok () → ∀ cell ∈ cells, cell ∈ plan.stores.map Prod.fst

/-- The plan that is refused before anything is stored. -/
def refused (error : TableRequestError) : Plan :=
  ⟨[], .error error⟩

theorem fills_refused (error : TableRequestError) (cells : List (List Nat)) :
    (refused error).Fills cells :=
  ⟨fun _ hmem => absurd hmem List.not_mem_nil, fun hok => nomatch hok⟩

theorem fills_zip {cells : List (List Nat)} {numbers : List Float}
    {outcome : Except TableRequestError Unit}
    (hlength : outcome = .ok () → numbers.length = cells.length) :
    (Plan.mk (cells.zip numbers) outcome).Fills cells := by
  refine ⟨fun cell hmem => ?_, fun hok cell hmem => ?_⟩
  · obtain ⟨store, hstore, rfl⟩ := List.mem_map.mp hmem
    exact (List.of_mem_zip hstore).1
  · have hcells : (cells.zip numbers).map Prod.fst = cells :=
      List.map_fst_zip (hlength hok).ge
    rwa [hcells]

end Plan

/-! ### Rows of one time -/

/-- The cells of rows at a time. -/
def cellsOf (states time : Nat) : Rows → List (List Nat)
  | .single index =>
      match position 0 states index with
      | .ok row => [[row.val, time]]
      | .error _ => []
  | .slice selection =>
      match selection.positions? states with
      | some selected => selected.map fun row => [row.val, time]
      | none => []

theorem set_writeRows (columns : Vector (Vector (Option α) states) count) {time : Nat}
    (htime : time < count) (rows : List (Fin states)) (numbers : List α) :
    columns.set time (writeRows columns[time] rows numbers) =
      storeAll columns ((rows.map fun row => [row.val, time]).zip numbers) := by
  induction rows generalizing columns numbers with
  | nil => exact Vector.set_getElem_self _
  | cons row rest ih =>
      cases numbers with
      | nil => exact Vector.set_getElem_self _
      | cons number later =>
          have hcell : setCell columns number [row.val, time] =
              columns.set time (columns[time].set row.val (some number)) := by
            rw [setCell, dif_pos ⟨htime, row.isLt⟩]
          have hrest := ih (columns.set time (columns[time].set row.val (some number))) later
          rw [Vector.getElem_set_self, Vector.set_set] at hrest
          rw [writeRows, hrest, List.map_cons, List.zip_cons_cons, storeAll, storeAll,
            List.foldl_cons, hcell]

/-- A value is stored in rows of a column alike, whichever columns these are. -/
theorem exists_plan_assign (states time : Nat) (rows : Rows) (value : Value) :
    ∃ plan : Plan, plan.Fills (cellsOf states time rows) ∧
      ∀ {count : Nat} (columns : Vector (Vector (Option Float) states) count)
        (htime : time < count),
        (columns.set time (assign columns[time] rows value).1,
          (assign columns[time] rows value).2.mapError TableRequestError.table) =
            plan.carryOut columns := by
  cases rows with
  | single index =>
      cases hrow : position 0 states index with
      | error cause =>
          refine ⟨.refused (.table (.index cause)), Plan.fills_refused _ _, ?_⟩
          intro count columns htime
          simp only [assign, hrow, Vector.set_getElem_self]
          rfl
      | ok row =>
          cases hnumber : value.toEntry with
          | error cause =>
              refine ⟨.refused (.table (.entry cause)), Plan.fills_refused _ _, ?_⟩
              intro count columns htime
              simp only [assign, hrow, hnumber, Vector.set_getElem_self]
              rfl
          | ok number =>
              refine ⟨⟨[([row.val, time], number)], .ok ()⟩, ?_, ?_⟩
              · rw [cellsOf, hrow]
                exact ⟨fun _ hmem => hmem, fun _ _ hmem => hmem⟩
              · intro count columns htime
                simp only [assign, hrow, hnumber]
                exact congrArg (fun columns => (columns, Except.ok ()))
                  (set_writeRows columns htime [row] [number])
  | slice selection =>
      cases hselected : selection.positions? states with
      | none =>
          refine ⟨.refused (.table .zeroStep), Plan.fills_refused _ _, ?_⟩
          intro count columns htime
          simp only [assign, hselected, Vector.set_getElem_self]
          rfl
      | some selected =>
          refine ⟨⟨(selected.map fun row => [row.val, time]).zip
            (numbersFor [selected.length] value).1,
              (numbersFor [selected.length] value).2.mapError TableRequestError.table⟩, ?_, ?_⟩
          · rw [cellsOf, hselected]
            refine Plan.fills_zip fun hok => ?_
            rw [length_numbersFor (mapError_eq_ok_iff.mp hok), List.length_map]
            exact Nat.mul_one _
          · intro count columns htime
            simp only [assign, hselected, set_writeRows]
            rfl

/-! ### Selected cells -/

/-- A value is stored in selected cells alike, whatever these hold. -/
theorem exists_plan_assignCells (states count : Nat) {selectors : List Selector}
    (hselectors : ∀ selector ∈ selectors, selector.IsCounted) (value : Value) :
    ∃ plan : Plan,
      ((∃ selection, select [states, count] selectors = .ok selection ∧
          plan.Fills selection.cells) ∨ ∃ error, plan = .refused error) ∧
        ∀ columns : Vector (Vector (Option Float) states) count,
          assignCells columns selectors value = plan.carryOut columns := by
  cases hselect : select [states, count] selectors with
  | error cause =>
      refine ⟨.refused (.selection cause), Or.inr ⟨_, rfl⟩, fun columns => ?_⟩
      simp only [assignCells, hselect]
      rfl
  | ok selection =>
      have hcounted := isCounted_select hselectors hselect
      cases harray : selectors.any Selector.isArray with
      | false =>
          refine ⟨⟨selection.cells.zip (numbersFor selection.shape value).1,
            (numbersFor selection.shape value).2.mapError TableRequestError.table⟩,
              Or.inl ⟨selection, rfl, Plan.fills_zip fun hok => ?_⟩, fun columns => ?_⟩
          · rw [length_numbersFor (mapError_eq_ok_iff.mp hok), hcounted]
          · simp only [assignCells, hselect, harray, Bool.false_eq_true, if_false]
            rfl
      | true =>
          cases hnumbers : numbersForArray selection.shape value with
          | error error =>
              refine ⟨.refused error, Or.inr ⟨_, rfl⟩, fun columns => ?_⟩
              simp only [assignCells, hselect, harray, if_true, hnumbers, List.zip_nil_right]
              rfl
          | ok numbers =>
              refine ⟨⟨selection.cells.zip numbers, .ok ()⟩,
                Or.inl ⟨selection, rfl, Plan.fills_zip fun _ => ?_⟩, fun columns => ?_⟩
              · rw [length_numbersForArray hnumbers, hcounted]
              · simp only [assignCells, hselect, harray, if_true, hnumbers]
                rfl

/-! ### Stages -/

/-- What a stage stores of costs and, once they are stored, of controls. -/
structure StagePlan where
  costs : Plan
  controls : Plan

namespace StagePlan

/-- The table after a stage, and how that ends. -/
def carryOut (plan : StagePlan) (table : Table Float states horizon) :
    Table Float states horizon × Except TableRequestError Unit :=
  let (cost, outcome) := plan.costs.carryOut table.cost
  match outcome with
  | .error error => ({ table with cost }, .error error)
  | .ok () =>
      let (policy, outcome) := plan.controls.carryOut table.policy
      ({ table with cost, policy }, outcome)

theorem carryOut_of_error {plan : StagePlan} {error : TableRequestError}
    (herror : plan.costs.outcome = .error error) (table : Table Float states horizon) :
    plan.carryOut table =
      ({ table with cost := storeAll table.cost plan.costs.stores }, .error error) := by
  simp only [carryOut, Plan.carryOut, herror]

theorem carryOut_of_ok {plan : StagePlan} (hok : plan.costs.outcome = .ok ())
    (table : Table Float states horizon) :
    plan.carryOut table =
      ({ table with
        cost := storeAll table.cost plan.costs.stores
        policy := storeAll table.policy plan.controls.stores }, plan.controls.outcome) := by
  simp only [carryOut, Plan.carryOut, hok]

/-- Controls are stored in cells whose costs are stored, and in all of them, before the last column,
unless the stage fails. -/
structure IsPaired (plan : StagePlan) (horizon : Nat) : Prop where
  cost_of_control : plan.costs.outcome = .ok () → ∀ row time, time < horizon →
    [row, time] ∈ plan.controls.stores.map Prod.fst → [row, time] ∈ plan.costs.stores.map Prod.fst
  control_of_cost : plan.costs.outcome = .ok () → plan.controls.outcome = .ok () →
    ∀ row time, time < horizon → [row, time] ∈ plan.costs.stores.map Prod.fst →
      [row, time] ∈ plan.controls.stores.map Prod.fst

theorem isPaired_of_fills {plan : StagePlan} {cells others : List (List Nat)} {horizon : Nat}
    (hcosts : plan.costs.Fills cells) (hcontrols : plan.controls.Fills others)
    (hsame : ∀ row time, time < horizon → ([row, time] ∈ others ↔ [row, time] ∈ cells)) :
    plan.IsPaired horizon where
  cost_of_control hok row time htime hmem :=
    hcosts.filled hok _ ((hsame row time htime).mp (hcontrols.mem _ hmem))
  control_of_cost _ hok row time htime hmem :=
    hcontrols.filled hok _ ((hsame row time htime).mpr (hcosts.mem _ hmem))

theorem isPaired_of_controls_refused (costs : Plan) (error : TableRequestError) (horizon : Nat) :
    (StagePlan.mk costs (.refused error)).IsPaired horizon :=
  ⟨fun _ _ _ _ hmem => absurd hmem List.not_mem_nil, fun _ hok => nomatch hok⟩

theorem isPaired_of_costs_refused (error : TableRequestError) (controls : Plan) (horizon : Nat) :
    (StagePlan.mk (.refused error) controls).IsPaired horizon :=
  ⟨fun hok => (nomatch hok), fun hok => (nomatch hok)⟩

end StagePlan

/-- A stage is stored by a plan, whatever the table holds, and the costs in it do not depend on the
controls. -/
def IsPlanned (run : (controls : Value) → Table Float states horizon →
    Table Float states horizon × Except TableRequestError Unit) : Prop :=
  ∃ costPlan, ∀ controls, ∃ controlPlan, (StagePlan.mk costPlan controlPlan).IsPaired horizon ∧
    ∀ table, run controls table = (StagePlan.mk costPlan controlPlan).carryOut table

theorem isPlanned_of_refused {run : (controls : Value) → Table Float states horizon →
    Table Float states horizon × Except TableRequestError Unit} (error : TableRequestError)
    (hrefused : ∀ controls table, run controls table = (table, .error error)) : IsPlanned run :=
  ⟨.refused error, fun controls => ⟨.refused error,
    StagePlan.isPaired_of_costs_refused _ _ _, hrefused controls⟩⟩

theorem isPlanned_setStage {index : Nat} (hindex : index < horizon) (rows : Rows)
    (costs : Value) : IsPlanned fun controls (table : Table Float states horizon) =>
      ((table.setStage index rows costs controls).1,
        (table.setStage index rows costs controls).2.mapError TableRequestError.table) := by
  obtain ⟨costPlan, hcostFills, hcosts⟩ := exists_plan_assign states index rows costs
  refine ⟨costPlan, fun controls => ?_⟩
  obtain ⟨controlPlan, hcontrolFills, hcontrols⟩ := exists_plan_assign states index rows controls
  refine ⟨controlPlan, StagePlan.isPaired_of_fills hcostFills hcontrolFills fun _ _ _ => Iff.rfl,
    fun table => ?_⟩
  have hstage : 0 ≤ (index : Int) ∧ (index : Int) < horizon := by omega
  have hcost := hcosts table.cost (Nat.lt_succ_of_lt hindex)
  have hpolicy := hcontrols table.policy hindex
  rw [StagePlan.carryOut, ← hcost, ← hpolicy]
  simp only [setStage, dif_pos hstage, Int.toNat_natCast]
  cases (assign table.cost[index] rows costs).2 with
  | error error => rfl
  | ok done => rfl

theorem isPlanned_setSelected {rows time : Selector}
    (htime : (∃ flag, time = .mask [] [flag]) ∨
      ∃ index : Nat, index < horizon ∧ time = .position index)
    (hcounted : rows.IsCounted) (costs : Value) :
    IsPlanned fun controls (table : Table Float states horizon) =>
      table.setSelected rows time costs controls := by
  have hselectors : ∀ selector ∈ [rows, time], selector.IsCounted := by
    have htimeCounted : time.IsCounted := by
      obtain ⟨_, rfl⟩ | ⟨_, _, rfl⟩ := htime <;> trivial
    exact List.forall_mem_cons.mpr ⟨hcounted, List.forall_mem_singleton.mpr htimeCounted⟩
  obtain ⟨costPlan, hcostFills, hcosts⟩ :=
    exists_plan_assignCells states (horizon + 1) hselectors costs
  refine ⟨costPlan, fun controls => ?_⟩
  obtain ⟨controlPlan, hcontrolFills, hcontrols⟩ :=
    exists_plan_assignCells states horizon hselectors controls
  refine ⟨controlPlan, ?_, fun table => ?_⟩
  · obtain ⟨longer, hlonger, hcostFills⟩ | ⟨error, rfl⟩ := hcostFills
    · obtain ⟨shorter, hshorter, hcontrolFills⟩ | ⟨error, rfl⟩ := hcontrolFills
      · have hextends := extends_select htime hshorter hlonger
        exact StagePlan.isPaired_of_fills hcostFills hcontrolFills
          fun _ _ hless => hextends.mem_iff hless
      · exact StagePlan.isPaired_of_controls_refused costPlan error horizon
    · exact StagePlan.isPaired_of_costs_refused error controlPlan horizon
  · rw [StagePlan.carryOut, ← hcosts, ← hcontrols]
    rfl

end Table

namespace Write

variable {states horizon : Nat}

theorem isCounted_selector {rows : GivenRows} {selector : Selector}
    (hrows : rows.selector = .ok selector) : selector.IsCounted := by
  cases rows with
  | slice start stop step =>
      obtain rfl := Except.ok.inj hrows
      trivial
  | value given => exact Selector.isCounted_of_ofValue hrows

theorem isPlanned_of_selectors {time : Value} {rows : GivenRows} {selector column : Selector}
    (costs : Value) (hwithin : time.isWithin horizon = .ok true)
    (hrows : rows.selector = .ok selector) (hcolumn : Selector.ofValue time = .ok column) :
    Table.IsPlanned fun controls (table : Table Float states horizon) =>
      (stage time rows costs controls).perform table := by
  have hcounted := isCounted_selector hrows
  -- The time stays a name, so that no step computes the bounds of positions.
  obtain ⟨flag, -, rfl⟩ | ⟨index, -, hindex, rfl⟩ := Selector.cases_of_isWithin hwithin hcolumn
  · have hperform : ∀ controls (table : Table Float states horizon),
        (stage time rows costs controls).perform table =
          table.setSelected selector (.mask [] [flag]) costs controls := by
      intro controls table
      rw [perform, Table.setStageOf, hwithin, hrows, hcolumn]
      cases selector <;> rfl
    rw [funext₂ hperform]
    exact Table.isPlanned_setSelected (Or.inl ⟨flag, rfl⟩) hcounted costs
  · have hselected (hperform : ∀ controls (table : Table Float states horizon),
        (stage time rows costs controls).perform table =
          table.setSelected selector (.position index) costs controls) :
        Table.IsPlanned fun controls (table : Table Float states horizon) =>
          (stage time rows costs controls).perform table := by
      rw [funext₂ hperform]
      exact Table.isPlanned_setSelected (Or.inr ⟨index, hindex, rfl⟩) hcounted costs
    cases selector with
    | position row =>
        have hperform : ∀ controls (table : Table Float states horizon),
            (stage time rows costs controls).perform table =
              ((table.setStage index (.single row) costs controls).1,
                (table.setStage index (.single row) costs controls).2.mapError .table) := by
          intro controls table
          rw [perform, Table.setStageOf, hwithin, hrows, hcolumn]
          rfl
        rw [funext₂ hperform]
        exact Table.isPlanned_setStage hindex _ costs
    | slice start stop step =>
        cases hslice : Slice.ofValues start stop step with
        | error cause =>
            refine Table.isPlanned_of_refused (.selection cause) fun controls table => ?_
            simp only [perform, Table.setStageOf, hwithin, hrows, hcolumn, bind, Except.bind, pure,
              Except.pure, hslice]
        | ok slice =>
            have hperform : ∀ controls (table : Table Float states horizon),
                (stage time rows costs controls).perform table =
                  ((table.setStage index (.slice slice) costs controls).1,
                    (table.setStage index (.slice slice) costs controls).2.mapError .table) := by
              intro controls table
              simp only [perform, Table.setStageOf, hwithin, hrows, hcolumn, bind, Except.bind,
                pure, Except.pure, hslice]
            rw [funext₂ hperform]
            exact Table.isPlanned_setStage hindex _ costs
    | _ =>
        refine hselected fun controls table => ?_
        rw [perform, Table.setStageOf, hwithin, hrows, hcolumn]
        rfl

/-- A stage is planned: it stores the same in every table, and its costs whatever its controls
are. -/
theorem isPlanned_stage (time : Value) (rows : GivenRows) (costs : Value) :
    Table.IsPlanned fun controls (table : Table Float states horizon) =>
      (stage time rows costs controls).perform table := by
  cases hwithin : time.isWithin horizon with
  | error cause =>
      refine Table.isPlanned_of_refused (.incomparable cause) fun controls table => ?_
      rw [perform, Table.setStageOf, hwithin]
  | ok within =>
      cases within with
      | false =>
          refine Table.isPlanned_of_refused (.stageOutside time horizon) fun controls table => ?_
          rw [perform, Table.setStageOf, hwithin]
      | true =>
          cases hrows : rows.selector with
          | error cause =>
              refine Table.isPlanned_of_refused (.selection cause) fun controls table => ?_
              rw [perform, Table.setStageOf, hwithin, hrows]
              rfl
          | ok selector =>
              cases hcolumn : Selector.ofValue time with
              | error cause =>
                  refine Table.isPlanned_of_refused (.selection cause) fun controls table => ?_
                  rw [perform, Table.setStageOf, hwithin, hrows, hcolumn]
                  rfl
              | ok column => exact isPlanned_of_selectors costs hwithin hrows hcolumn

end Write

end BellmanGrid
