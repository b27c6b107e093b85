import BellmanGrid.Proofs.BlockWrites
import BellmanGrid.Proofs.SelectedCells

/-!
The cells that one write changes, be it successful or not.

A write of a stage changes cells of the rows and the time that it names, and nothing else; it never
reaches the last column.  The exceptions are rows and times that add an axis of their own: they
select whole rows of the table, and they are left out here.
-/

namespace BellmanGrid

/-! ### Cells that a write leaves alone -/

/-- Rows that a stage is written to. -/
def Rows.Selects (size row : Nat) : Rows → Prop
  | single index => ∃ found, position 0 size index = .ok found ∧ found.val = row
  | slice selection => ∃ selected, selection.positions? size = some selected ∧
      ∃ found ∈ selected, found.val = row

namespace Table

variable {α : Type} {states horizon count : Nat}

/-- Two tables that agree on the cells that are not touched. -/
structure SameOutside (touched : (row time : Nat) → Prop)
    (before after : Table α states horizon) : Prop where
  terminalSet : after.terminalSet = before.terminalSet
  cost : ∀ (row : Fin states) (time : Fin (horizon + 1)), ¬ touched row time →
    (after.cost.get time).get row = (before.cost.get time).get row
  policy : ∀ (row : Fin states) (time : Fin horizon), ¬ touched row time →
    (after.policy.get time).get row = (before.policy.get time).get row

theorem SameOutside.refl {touched : (row time : Nat) → Prop} (table : Table α states horizon) :
    SameOutside touched table table :=
  ⟨rfl, fun _ _ _ => rfl, fun _ _ _ => rfl⟩

theorem SameOutside.mono {touched more : (row time : Nat) → Prop}
    {before after : Table α states horizon} (hsame : SameOutside touched before after)
    (hmore : ∀ row time, touched row time → more row time) : SameOutside more before after :=
  ⟨hsame.terminalSet, fun row time hnot => hsame.cost row time (mt (hmore row time) hnot),
    fun row time hnot => hsame.policy row time (mt (hmore row time) hnot)⟩

/-- A column that is put in place of another one changes the cells in which the two differ. -/
theorem get_set_column (columns : Vector (Vector (Option α) states) count) {time : Nat}
    (htime : time < count) (column : Vector (Option α) states) (row : Fin states)
    (place : Fin count) (hsame : place.val = time → column.get row = columns[time].get row) :
    ((columns.set time column).get place).get row = (columns.get place).get row := by
  by_cases hplace : time = place.val
  · subst hplace
    have hset : (columns.set place.val column).get place = column := Vector.getElem_set_self _
    rw [hset]
    exact hsame rfl
  · have hset : (columns.set time column).get place = columns.get place :=
      Vector.getElem_set_ne htime place.isLt hplace
    rw [hset]

theorem get_assign (column : Vector (Option Float) states) (rows : Rows) (value : Value)
    {row : Fin states} (hrow : ¬ rows.Selects states row) :
    (assign column rows value).1.get row = column.get row := by
  cases rows with
  | single index =>
      rw [assign]
      cases hfound : position 0 states index with
      | error cause => rfl
      | ok found =>
          dsimp only
          cases value.toEntry with
          | error cause => rfl
          | ok number =>
              have hne : found.val ≠ row.val := fun hequal => hrow ⟨found, hfound, hequal⟩
              exact Vector.getElem_set_ne found.isLt row.isLt hne
  | slice selection =>
      rw [assign]
      cases hselected : selection.positions? states with
      | none => rfl
      | some selected =>
          have hnot : row ∉ selected := fun hmem => hrow ⟨selected, hselected, row, hmem, rfl⟩
          exact get_writeRows_of_not_mem column _ hnot

theorem sameOutside_setStage (table : Table Float states horizon) (time : Int) (rows : Rows)
    (costs controls : Value) :
    SameOutside (fun row column => (column : Int) = time ∧ column < horizon ∧
      rows.Selects states row) table (table.setStage time rows costs controls).1 := by
  rw [setStage]
  split
  · next htime =>
      have hstage : time.toNat < horizon := by omega
      have hcost : ∀ (row : Fin states) (place : Fin (horizon + 1)),
          ¬ ((place.val : Int) = time ∧ place.val < horizon ∧ rows.Selects states row) →
          ((table.cost.set time.toNat (assign table.cost[time.toNat] rows costs).1).get place).get
            row = (table.cost.get place).get row := by
        intro row place hnot
        refine get_set_column _ _ _ _ _ fun hplace => get_assign _ _ _ ?_
        exact fun hrow => hnot ⟨by omega, by omega, hrow⟩
      have hpolicy : ∀ (row : Fin states) (place : Fin horizon),
          ¬ ((place.val : Int) = time ∧ place.val < horizon ∧ rows.Selects states row) →
          ((table.policy.set time.toNat (assign table.policy[time.toNat] rows controls).1).get
            place).get row = (table.policy.get place).get row := by
        intro row place hnot
        refine get_set_column _ _ _ _ _ fun hplace => get_assign _ _ _ ?_
        exact fun hrow => hnot ⟨by omega, by omega, hrow⟩
      dsimp only
      split
      · exact ⟨rfl, hcost, fun _ _ _ => rfl⟩
      · exact ⟨rfl, hcost, hpolicy⟩
  · exact .refl table

/-! ### Cells that selectors leave alone -/

theorem get_setCell (columns : Vector (Vector (Option α) states) count) (number : α)
    {cell : List Nat} {row : Fin states} {place : Fin count} (hcell : cell ≠ [row.val, place.val]) :
    ((setCell columns number cell).get place).get row = (columns.get place).get row := by
  rw [setCell.eq_def]
  split
  · next written column =>
      split
      · next hinside =>
          refine get_set_column _ _ _ _ _ fun hplace => ?_
          have hne : written ≠ row.val := by
            rintro rfl
            exact hcell (by rw [hplace])
          exact Vector.getElem_set_ne hinside.2 row.isLt hne
      · rfl
  · rfl

theorem get_foldl_setCell (columns : Vector (Vector (Option α) states) count)
    {writes : List (List Nat × α)} {row : Fin states} {place : Fin count}
    (hwrites : ∀ write ∈ writes, write.1 ≠ [row.val, place.val]) :
    ((writes.foldl (fun columns write => setCell columns write.2 write.1) columns).get place).get
      row = (columns.get place).get row := by
  induction writes generalizing columns with
  | nil => rfl
  | cons write rest ih =>
      obtain ⟨hwrite, hrest⟩ := List.forall_mem_cons.mp hwrites
      rw [List.foldl_cons, ih _ hrest, get_setCell _ _ hwrite]

theorem get_assignCells (columns : Vector (Vector (Option Float) states) count)
    (selectors : List Selector) (value : Value) {row : Fin states} {place : Fin count}
    (hnot : ∀ selection, select [states, count] selectors = .ok selection →
      [row.val, place.val] ∉ selection.cells) :
    ((assignCells columns selectors value).1.get place).get row = (columns.get place).get row := by
  rw [assignCells]
  cases hselect : select [states, count] selectors with
  | error cause => rfl
  | ok selection =>
      refine get_foldl_setCell columns ?_
      rintro ⟨cell, number⟩ hwrite rfl
      exact hnot selection hselect (List.of_mem_zip hwrite).1

theorem sameOutside_setSelected {touched : (row time : Nat) → Prop}
    (table : Table Float states horizon) (rows time : Selector) (costs controls : Value)
    (htouched : ∀ count selection, select [states, count] [rows, time] = .ok selection →
      ∀ row column, [row, column] ∈ selection.cells → touched row column) :
    SameOutside touched table (table.setSelected rows time costs controls).1 := by
  have hcost : ∀ (row : Fin states) (place : Fin (horizon + 1)), ¬ touched row place →
      ((assignCells table.cost [rows, time] costs).1.get place).get row =
        (table.cost.get place).get row :=
    fun row place hnot => get_assignCells _ _ _ fun selection hselect hcell =>
      hnot (htouched _ selection hselect _ _ hcell)
  have hpolicy : ∀ (row : Fin states) (place : Fin horizon), ¬ touched row place →
      ((assignCells table.policy [rows, time] controls).1.get place).get row =
        (table.policy.get place).get row :=
    fun row place hnot => get_assignCells _ _ _ fun selection hselect hcell =>
      hnot (htouched _ selection hselect _ _ hcell)
  rw [setSelected]
  dsimp only
  split
  · exact ⟨rfl, hcost, fun _ _ _ => rfl⟩
  · exact ⟨rfl, hcost, hpolicy⟩

end Table

/-! ### Writes -/

/-- The rows given for a write of a stage: a slice, or a value of any type. -/
inductive GivenRows where
  | slice (start stop step : Value)
  | value (given : Value)

def GivenRows.selector : GivenRows → Except SelectionError Selector
  | slice start stop step => .ok (.slice start stop step)
  | value given => Selector.ofValue given

/-- A write to a table, with arguments of any type. -/
inductive Write where
  | terminal (values : Value)
  | stage (time : Value) (rows : GivenRows) (costs controls : Value)

namespace Write

variable {states horizon : Nat}

/-- The table after a write, and whether the write succeeds. -/
def perform (table : Table Float states horizon) :
    Write → Table Float states horizon × Except TableRequestError Unit
  | terminal values =>
      let (table, outcome) := table.setTerminal values
      (table, outcome.mapError TableRequestError.table)
  | stage time rows costs controls => table.setStageOf time rows.selector costs controls

/-- The time is not the truth value true, and the rows are neither that nor nothing at all. -/
def KeepsAxes : Write → Prop
  | terminal _ => True
  | stage time rows _ _ =>
      time ≠ .boolean true ∧ rows ≠ .value .null ∧ rows ≠ .value (.boolean true)

/-- The cells that a write is about: terminal costs are about the last time, and a stage is about
the rows that it selects at an integer time before it. -/
def Addresses (states horizon : Nat) : (write : Write) → (row time : Nat) → Prop
  | terminal _, _, time => time = horizon
  | stage given rows _ _, row, time => given = .integer time ∧ time < horizon ∧
      ∃ selector, rows.selector = .ok selector ∧ selector.Names states row

/-- The same rows, once as they are stored to and once as a selector. -/
theorem names_of_single {index : Int} {size row : Nat}
    (hrow : (Rows.single index).Selects size row) : (Selector.position index).Names size row := by
  obtain ⟨found, hfound, rfl⟩ := hrow
  refine ⟨⟨[], [[found.val]]⟩, ?_, List.mem_singleton_self _⟩
  simp only [Selector.selection, List.headD_cons, hfound]
  rfl

theorem names_of_slice {start stop step : Value} {slice : Slice} {size row : Nat}
    (hslice : Slice.ofValues start stop step = .ok slice)
    (hrow : (Rows.slice slice).Selects size row) :
    (Selector.slice start stop step).Names size row := by
  obtain ⟨selected, hselected, found, hfound, rfl⟩ := hrow
  refine ⟨⟨[selected.length], selected.map fun index => [index.val]⟩, ?_,
    List.mem_map.mpr ⟨found, hfound, rfl⟩⟩
  simp only [Selector.selection, List.headD_cons, hslice, bind, Except.bind, hselected]
  rfl

theorem val_of_position {axis size index : Nat} {found : Fin size}
    (hfound : position axis size index = .ok found) : found.val = index := by
  have hfront : ¬ (index : Int) < 0 := by omega
  simp only [position, if_neg hfront] at hfound
  split at hfound
  · obtain rfl := Except.ok.inj hfound
    exact Int.toNat_natCast index
  · cases hfound

/-- Beside an integer, rows that are an array with an axis are selected in one column. -/
theorem addresses_of_select {given : GivenRows} {rows : Selector}
    (hrows : given.selector = .ok rows) (harray : rows.isArray = true) (haxes : rows.axesUsed ≠ 0)
    {index : Nat} (hindex : index < horizon) (costs controls : Value) (count : Nat)
    (selection : Selection)
    (hselect : select [states, count] [rows, .position index] = .ok selection) (row column : Nat)
    (hcell : [row, column] ∈ selection.cells) :
    (stage (.integer index) given costs controls).Addresses states horizon row column := by
  obtain ⟨hnames, found, hfound, rfl⟩ := names_of_select harray haxes hselect hcell
  have hcolumn := val_of_position hfound
  exact ⟨by rw [hcolumn], hcolumn ▸ hindex, rows, hrows, hnames⟩

/-- Beside a truth value that is false there is no cell at all. -/
theorem not_mem_of_false {selectors : List Selector} (hfalse : .mask [] [false] ∈ selectors)
    {touched : (row time : Nat) → Prop} (count : Nat) (selection : Selection)
    (hselect : select [states, count] selectors = .ok selection) (row column : Nat)
    (hcell : [row, column] ∈ selection.cells) : touched row column := by
  rw [cells_select_of_false hfalse hselect] at hcell
  exact absurd hcell List.not_mem_nil

/-- A stage at an integer time changes cells that it is about, and no others. -/
theorem sameOutside_stage_integer (table : Table Float states horizon) {index : Nat}
    (hindex : index < horizon) {given : GivenRows} {rows : Selector}
    (hrows : given.selector = .ok rows) (hnull : given ≠ .value .null)
    (htrue : given ≠ .value (.boolean true)) (costs controls : Value)
    (hwithin : (Value.integer index).isWithin horizon = .ok true)
    (htime : Selector.ofValue (.integer index) = .ok (.position index)) :
    Table.SameOutside ((stage (.integer index) given costs controls).Addresses states horizon) table
      (table.setStageOf (.integer index) (.ok rows) costs controls).1 := by
  rw [Table.setStageOf, hwithin, htime]
  cases rows with
  | position row =>
      refine (table.sameOutside_setStage index (.single row) costs controls).mono ?_
      rintro place column ⟨hcolumn, hlt, hselects⟩
      exact ⟨by rw [hcolumn], hlt, _, hrows, names_of_single hselects⟩
  | slice start stop step =>
      simp only [bind, Except.bind, pure, Except.pure]
      cases hslice : Slice.ofValues start stop step with
      | error cause => exact .refl table
      | ok slice =>
          refine (table.sameOutside_setStage index (.slice slice) costs controls).mono ?_
          rintro place column ⟨hcolumn, hlt, hselects⟩
          exact ⟨by rw [hcolumn], hlt, _, hrows, names_of_slice hslice hselects⟩
  | newAxis =>
      cases given with
      | slice start stop step => cases hrows
      | value given =>
          exact absurd (congrArg GivenRows.value (Selector.eq_null_of_ofValue hrows)) hnull
  | positions shape indices =>
      exact table.sameOutside_setSelected _ _ costs controls
        (addresses_of_select hrows rfl (Nat.succ_ne_zero 0) hindex costs controls)
  | mask shape flags =>
      cases shape with
      | cons size rest =>
          exact table.sameOutside_setSelected _ _ costs controls
            (addresses_of_select hrows rfl (Nat.succ_ne_zero _) hindex costs controls)
      | nil =>
          cases given with
          | slice start stop step => cases hrows
          | value given =>
              obtain ⟨flag, rfl, rfl⟩ := Selector.eq_boolean_of_ofValue hrows
              cases flag with
              | true => exact absurd rfl htrue
              | false =>
                  exact table.sameOutside_setSelected _ _ costs controls
                    (not_mem_of_false List.mem_cons_self)

/-- A stage at the truth value false changes nothing. -/
theorem sameOutside_stage_false {touched : (row time : Nat) → Prop}
    (table : Table Float states horizon) (rows : Selector) (costs controls : Value)
    (hwithin : (Value.boolean false).isWithin horizon = .ok true) :
    Table.SameOutside touched table
      (table.setStageOf (.boolean false) (.ok rows) costs controls).1 := by
  have hselected : Table.SameOutside touched table
      (table.setSelected rows (.mask [] [false]) costs controls).1 :=
    table.sameOutside_setSelected _ _ costs controls
      (not_mem_of_false (List.mem_cons_of_mem _ List.mem_cons_self))
  rw [Table.setStageOf, hwithin, Selector.ofValue_boolean]
  cases rows <;> exact hselected

/-- A stage that is not refused before any cell is looked at has rows and a time within the
horizon. -/
theorem selectors_of_perform (table : Table Float states horizon) (time : Value) (rows : GivenRows)
    (costs controls : Value) :
    ((stage time rows costs controls).perform table).1 = table ∨
      time.isWithin horizon = .ok true ∧ ∃ selector column, rows.selector = .ok selector ∧
        Selector.ofValue time = .ok column := by
  rw [perform, Table.setStageOf]
  cases time.isWithin horizon with
  | error cause => exact Or.inl rfl
  | ok within =>
      cases within with
      | false => exact Or.inl rfl
      | true =>
          cases rows.selector with
          | error cause => exact Or.inl rfl
          | ok selector =>
              cases Selector.ofValue time with
              | error cause => exact Or.inl rfl
              | ok column => exact Or.inr ⟨rfl, selector, column, rfl, rfl⟩

/-- A stage changes cells that it is about, and no others. -/
theorem sameOutside_stage (table : Table Float states horizon) {time : Value} {rows : GivenRows}
    (costs controls : Value) (hkeeps : (stage time rows costs controls).KeepsAxes) :
    Table.SameOutside ((stage time rows costs controls).Addresses states horizon) table
      ((stage time rows costs controls).perform table).1 := by
  obtain ⟨htime, hnull, htrue⟩ := hkeeps
  obtain hrefused | ⟨hwithin, selector, column, hrows, hcolumn⟩ :=
    selectors_of_perform table time rows costs controls
  · rw [hrefused]
    exact .refl table
  · show Table.SameOutside _ table (table.setStageOf time rows.selector costs controls).1
    rw [hrows]
    obtain ⟨flag, rfl, rfl⟩ | ⟨index, rfl, hindex, rfl⟩ :=
      Selector.cases_of_isWithin hwithin hcolumn
    · cases flag with
      | true => exact absurd rfl htime
      | false => exact sameOutside_stage_false table selector costs controls hwithin
    · exact sameOutside_stage_integer table hindex hrows hnull htrue costs controls hwithin hcolumn

/-! ### Terminal costs -/

/-- Terminal costs are stored, or refused and then nothing changes. -/
theorem perform_terminal (table : Table Float states horizon) (values : Value) :
    (∃ error, (terminal values).perform table = (table, .error error)) ∨
      table.terminalSet = false ∧ ∃ costs, ∃ hshape : costs.shape = [states],
        values.toTensor = .ok costs ∧
        (terminal values).perform table =
          ({ table with
            cost := table.cost.set horizon
              ((Vector.mk costs.data (Table.size_of_shape hshape)).map some) (Nat.lt_succ_self _)
            terminalSet := true }, .ok ()) := by
  rw [perform, Table.setTerminal]
  cases hset : table.terminalSet with
  | true => exact Or.inl ⟨_, rfl⟩
  | false =>
      rw [if_neg Bool.false_ne_true]
      cases htensor : values.toTensor with
      | error cause => exact Or.inl ⟨_, rfl⟩
      | ok costs =>
          dsimp only
          by_cases hshape : costs.shape = [states]
          · rw [dif_pos hshape]
            exact Or.inr ⟨rfl, costs, hshape, rfl, rfl⟩
          · rw [dif_neg hshape]
            exact Or.inl ⟨_, rfl⟩

theorem perform_terminal_of_terminalSet {table : Table Float states horizon}
    (hset : table.terminalSet = true) (values : Value) :
    ∃ error, (terminal values).perform table = (table, .error error) := by
  obtain hrefused | ⟨hclear, _⟩ := perform_terminal table values
  · exact hrefused
  · rw [hset] at hclear
    cases hclear

end Write

end BellmanGrid
