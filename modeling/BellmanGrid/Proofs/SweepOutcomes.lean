import BellmanGrid.Proofs.BlockCover
import BellmanGrid.Proofs.ChoiceOutcomes
import BellmanGrid.Proofs.Scheduling
import BellmanGrid.Solution.Basic

/-!
What a solve can end with, and what it writes on the way.

A sweep is a list of stores, one for each block of each time.  Every store either fails in an
evaluation or fills the cells of its rows and leaves all other cells as they were.  The blocks of a
time contain each row once, so a sweep that gets to its end has filled every cell, each of them in
one store.
-/

namespace BellmanGrid

/-- A store of a sweep: the choices of the rows of a block, at a time. -/
structure Store (horizon : Nat) where
  time : Fin horizon
  block : Block
deriving Repr, DecidableEq

namespace Store

variable {horizon : Nat}

/-- Does a store write the cells of a row at a time? -/
def Covers (store : Store horizon) (time : Fin horizon) (row : Nat) : Prop :=
  store.time = time ∧ store.block.Contains row

/-- Is one of the stores that write the cells of a row at a time in the list? -/
def Reach (stores : List (Store horizon)) (time : Fin horizon) (row : Nat) : Prop :=
  ∃ store ∈ stores, store.Covers time row

theorem not_reach_nil (time : Fin horizon) (row : Nat) : ¬ Reach [] time row := by
  rintro ⟨_, hstore, _⟩
  exact List.not_mem_nil hstore

theorem reach_singleton {store : Store horizon} {time : Fin horizon} {row : Nat} :
    Reach [store] time row ↔ store.Covers time row := by
  simp [Reach]

theorem reach_append {first second : List (Store horizon)} {time : Fin horizon} {row : Nat} :
    Reach (first ++ second) time row ↔ Reach first time row ∨ Reach second time row := by
  simp only [Reach, List.mem_append, or_and_right, exists_or]

instance (store : Store horizon) (time : Fin horizon) (row : Nat) :
    Decidable (store.Covers time row) :=
  inferInstanceAs (Decidable (store.time = time ∧ store.block.Contains row))

end Store

namespace Schedule

variable {horizon : Nat}

/-- The stores of the times below `time`, in the order in which a sweep makes them. -/
def stores (schedule : Schedule) (rows chunkSize : Nat) :
    (time : Nat) → time ≤ horizon → List (Store horizon)
  | 0, _ => []
  | time + 1, hbound =>
      (schedule time (Block.cover rows chunkSize)).map (Store.mk ⟨time, hbound⟩) ++
        stores schedule rows chunkSize time (Nat.le_of_succ_le hbound)

variable {schedule : Schedule} {rows chunkSize : Nat}

theorem block_of_mem_stores (hschedule : schedule.Reorders) {time : Nat} {hbound : time ≤ horizon}
    {store : Store horizon} (hstore : store ∈ schedule.stores rows chunkSize time hbound) :
    store.time.val < time ∧ store.block ∈ Block.cover rows chunkSize := by
  induction time with
  | zero => exact absurd hstore List.not_mem_nil
  | succ time ih =>
      rcases List.mem_append.mp hstore with hfirst | hlater
      · obtain ⟨block, hblock, rfl⟩ := List.mem_map.mp hfirst
        exact ⟨Nat.lt_succ_self time, (hschedule time _).mem_iff.mp hblock⟩
      · obtain ⟨htime, hblock⟩ := ih hlater
        exact ⟨Nat.lt_succ_of_lt htime, hblock⟩

/-- The stores of a time write each row once at that time, and nothing at others. -/
theorem countP_storesAt (hchunk : 0 < chunkSize) (hschedule : schedule.Reorders) {row : Nat}
    (hrow : row < rows) (time other : Fin horizon) :
    ((schedule time (Block.cover rows chunkSize)).map (Store.mk time)).countP
      (fun store => store.Covers other row) = if time = other then 1 else 0 := by
  rw [List.countP_map]
  split
  · next hsame =>
      rw [(hschedule time _).countP_eq, ← (Block.tile_cover hchunk).countP_contains
        (Nat.zero_le row) hrow]
      apply List.countP_congr
      intro block _
      simp [Store.Covers, hsame]
  · next hother =>
      rw [List.countP_eq_zero]
      intro block _ hcovers
      exact hother (of_decide_eq_true hcovers).1

/-- Each row is written once at every time below the first one. -/
theorem countP_stores (hchunk : 0 < chunkSize) (hschedule : schedule.Reorders) {row : Nat}
    (hrow : row < rows) {time : Nat} (hbound : time ≤ horizon) (earlier : Fin horizon)
    (hearlier : earlier.val < time) :
    (schedule.stores rows chunkSize time hbound).countP (fun store => store.Covers earlier row) =
      1 := by
  induction time with
  | zero => exact absurd hearlier (Nat.not_lt_zero _)
  | succ time ih =>
      have hfirst := countP_storesAt hchunk hschedule hrow ⟨time, hbound⟩ earlier
      rw [stores, List.countP_append, hfirst]
      by_cases hequal : (⟨time, hbound⟩ : Fin horizon) = earlier
      · have hlater : (schedule.stores rows chunkSize time (Nat.le_of_succ_le hbound)).countP
            (fun store => store.Covers earlier row) = 0 := by
          rw [List.countP_eq_zero]
          intro store hstore hcovers
          have htime := (block_of_mem_stores hschedule hstore).1
          rw [(of_decide_eq_true hcovers).1, ← hequal] at htime
          exact Nat.lt_irrefl _ htime
        rw [if_pos hequal, hlater]
      · have hbelow : earlier.val < time := by
          have hne : time ≠ earlier.val := fun hval => hequal (Fin.ext hval)
          omega
        rw [if_neg hequal, ih _ hbelow]

/-- A sweep reaches every row at every time. -/
theorem reach_stores (hchunk : 0 < chunkSize) (hschedule : schedule.Reorders) {row : Nat}
    (hrow : row < rows) {time : Nat} (hbound : time ≤ horizon) (earlier : Fin horizon)
    (hearlier : earlier.val < time) :
    Store.Reach (schedule.stores rows chunkSize time hbound) earlier row := by
  have hcount := countP_stores hchunk hschedule hrow hbound earlier hearlier
  obtain ⟨store, hstore, hcovers⟩ := List.countP_pos_iff.mp (hcount ▸ Nat.one_pos)
  exact ⟨store, hstore, of_decide_eq_true hcovers⟩

end Schedule

variable {α : Type} [Number α]

namespace Table

variable {states horizon : Nat} {controls : Grid α}

/-- Stores have filled the cells that they reach, with finite costs and controls of the grid, and
all other cells are as before. -/
structure WrittenBy (controls : Grid α) (stores : List (Store horizon))
    (before after : Table α states horizon) : Prop where
  filled : ∀ time (row : Fin states), Store.Reach stores time row →
    ∃ choice : Choice α, choice.IsFrom controls ∧
      (after.cost.get time.castSucc).get row = some choice.cost ∧
      (after.policy.get time).get row = some choice.control
  kept : ∀ time (row : Fin states), ¬ Store.Reach stores time row →
    (after.cost.get time.castSucc).get row = (before.cost.get time.castSucc).get row ∧
      (after.policy.get time).get row = (before.policy.get time).get row
  ends : after.cost.get (Fin.last horizon) = before.cost.get (Fin.last horizon)

theorem WrittenBy.nil (table : Table α states horizon) : WrittenBy controls [] table table where
  filled time row hreach := absurd hreach (Store.not_reach_nil time row)
  kept _ _ _ := ⟨rfl, rfl⟩
  ends := rfl

theorem WrittenBy.append {first second : List (Store horizon)}
    {before middle after : Table α states horizon} (hfirst : WrittenBy controls first before middle)
    (hsecond : WrittenBy controls second middle after) :
    WrittenBy controls (first ++ second) before after where
  filled time row hreach := by
    by_cases hlater : Store.Reach second time row
    · exact hsecond.filled time row hlater
    · obtain ⟨hcost, hcontrol⟩ := hsecond.kept time row hlater
      rw [hcost, hcontrol]
      exact hfirst.filled time row ((Store.reach_append.mp hreach).resolve_right hlater)
  kept time row hreach := by
    rw [Store.reach_append, not_or] at hreach
    obtain ⟨hcost, hcontrol⟩ := hsecond.kept time row hreach.2
    rw [hcost, hcontrol]
    exact hfirst.kept time row hreach.1
  ends := hsecond.ends.trans hfirst.ends

/-- Choices stored in the rows of a block are written by one store. -/
theorem writtenBy_storeRows (table : Table α states horizon) (store : Store horizon)
    {choices : List (Choice α)}
    (hlength : choices.length =
      (rowsBetween states store.block.start store.block.stop).length)
    (hchoices : ∀ choice ∈ choices, choice.IsFrom controls) :
    WrittenBy controls [store] table (table.storeRows store.time
      (rowsBetween states store.block.start store.block.stop) choices) where
  filled time row hreach := by
    obtain ⟨rfl, hcontains⟩ := Store.reach_singleton.mp hreach
    obtain ⟨choice, hchoice, hwritten⟩ :=
      exists_get_writeRows_map hlength (mem_rowsBetween.mpr hcontains)
    refine ⟨choice, hchoices choice hchoice, ?_, ?_⟩
    · rw [storeRows, get_cost_withColumns, hwritten]
    · rw [storeRows, get_policy_withColumns, hwritten]
  kept time row hreach := by
    rw [Store.reach_singleton] at hreach
    by_cases htime : store.time = time
    · subst htime
      have hrow : row ∉ rowsBetween states store.block.start store.block.stop :=
        fun hmem => hreach ⟨rfl, mem_rowsBetween.mp hmem⟩
      rw [storeRows, get_cost_withColumns, get_policy_withColumns,
        get_writeRows_of_not_mem _ _ hrow, get_writeRows_of_not_mem _ _ hrow]
      exact ⟨rfl, rfl⟩
    · have hne : store.time.val ≠ time.val := fun hequal => htime (Fin.ext hequal)
      exact ⟨congrArg (·.get row) (cost_withColumns_of_ne table store.time _ _ hne _),
        congrArg (·.get row) (policy_withColumns_of_ne table store.time _ _ hne _)⟩
  ends := cost_withColumns_of_ne table store.time _ _ (Nat.ne_of_lt store.time.isLt) _

/-- All cells of a table are filled, the costs with finite numbers and the controls with points of
the grid. -/
structure IsFilled (controls : Grid α) (table : Table α states horizon) : Prop where
  costs : ∀ time row, ∃ cost, (table.cost.get time).get row = some cost ∧
    Number.isFinite cost = true
  policy : ∀ time row, ∃ control ∈ controls.points, (table.policy.get time).get row = some control

/-- Once stores have reached every row of every time, a table with finite terminal costs is
filled. -/
theorem WrittenBy.isFilled {stores : List (Store horizon)} {costs : Vector α states}
    {table : Table α states horizon}
    (hwritten : WrittenBy controls stores (blank.withEnds costs) table)
    (hreach : ∀ time (row : Fin states), Store.Reach stores time row)
    (hfinite : ∀ row, Number.isFinite (costs.get row) = true) : IsFilled controls table where
  costs time row := by
    cases time using Fin.lastCases with
    | last =>
        refine ⟨costs.get row, ?_, hfinite row⟩
        rw [hwritten.ends, get_cost_withEnds_last, get_map]
    | cast time =>
        obtain ⟨choice, hchoice, hcost, _⟩ := hwritten.filled time row (hreach time row)
        exact ⟨choice.cost, hcost, hchoice.finite⟩
  policy time row := by
    obtain ⟨choice, hchoice, _, hcontrol⟩ := hwritten.filled time row (hreach time row)
    exact ⟨choice.control, hchoice.control, hcontrol⟩

theorem IsFilled.isComplete {table : Table α states horizon} (hfilled : IsFilled controls table) :
    table.isComplete = true := by
  rw [isComplete_iff]
  constructor
  · intro time htime row hrow
    obtain ⟨cost, hcost, hfinite⟩ := hfilled.costs ⟨time, htime⟩ ⟨row, hrow⟩
    rw [show table.cost[time][row] = some cost from hcost]
    exact hfinite
  · intro time htime row hrow
    obtain ⟨control, hmem, hcontrol⟩ := hfilled.policy ⟨time, htime⟩ ⟨row, hrow⟩
    obtain ⟨index, hindex, rfl⟩ := Array.mem_iff_getElem.mp hmem
    rw [show table.policy[time][row] = some controls.points[index] from hcontrol]
    exact controls.finite index hindex

end Table

namespace GridProblem

variable {horizon : Nat}

/-- The stores of a solve. -/
abbrev stores (task : GridProblem α) (execution : Execution) (schedule : Schedule) (horizon : Nat) :
    List (Store horizon) :=
  schedule.stores task.states.size execution.chunkSize horizon (Nat.le_refl horizon)

/-- Works on the block of a store. -/
def perform (task : GridProblem α) (table : Table α task.states.size horizon)
    (store : Store horizon) : Except (SolveError α) (Table α task.states.size horizon) :=
  task.sweepBlock store.time table store.block

/-- A sweep makes its stores one after the other. -/
theorem sweepDown_eq_foldlM (task : GridProblem α) (chunkSize : Nat) (schedule : Schedule)
    {time : Nat} (hbound : time ≤ horizon) (table : Table α task.states.size horizon) :
    task.sweepDown chunkSize schedule time hbound table =
      (schedule.stores task.states.size chunkSize time hbound).foldlM task.perform table := by
  induction time generalizing table with
  | zero => rfl
  | succ time ih =>
      rw [sweepDown, Schedule.stores, List.foldlM_append, List.foldlM_map]
      exact bind_congr fun _ => ih _ _

variable {task : GridProblem α}

theorem rows_of_mem_stores {execution : Execution} {schedule : Schedule}
    (hschedule : schedule.Reorders) {store : Store horizon}
    (hstore : store ∈ task.stores execution schedule horizon) :
    store.block.start < store.block.stop ∧ store.block.stop ≤ task.states.size :=
  Block.bounds_of_mem_cover execution.chunkSize_pos
    (Schedule.block_of_mem_stores hschedule hstore).2

/-- The stores of a solve fill every cell of a table that has its terminal costs. -/
theorem isFilled_of_writtenBy_stores {execution : Execution} {schedule : Schedule}
    (hschedule : schedule.Reorders) {costs : Vector α task.states.size}
    {table : Table α task.states.size horizon}
    (hwritten : Table.WrittenBy task.controls (task.stores execution schedule horizon)
      (Table.blank.withEnds costs) table)
    (hfinite : ∀ row, Number.isFinite (costs.get row) = true) :
    table.IsFilled task.controls := by
  apply hwritten.isFilled _ hfinite
  intro time row
  exact Schedule.reach_stores execution.chunkSize_pos hschedule row.isLt (Nat.le_refl horizon) time
    time.isLt

variable [LawfulConversion α]

/-- A store writes its rows and nothing else, or fails in an evaluation. -/
theorem perform_ensures (table : Table α task.states.size horizon) {store : Store horizon}
    (hrows : store.block.start < store.block.stop) (hstop : store.block.stop ≤ task.states.size) :
    Ensures (Table.WrittenBy task.controls [store] table)
      (fun error => ∃ cause, error = .evaluation cause ∧ task.FailsAt store.time.val cause)
      (task.perform table store) := by
  rw [perform, sweepBlock]
  apply ((chooseRows_ensures (table.cost.get store.time.succ) store.time.val hrows
    hstop).mapError fun cause hfails => ⟨cause, rfl, hfails⟩).bind
  rintro choices ⟨hlength, hchoices⟩
  rw [Table.storeStage_eq_storeRows table store.time hlength]
  exact Table.writtenBy_storeRows table store hlength hchoices

theorem foldlM_perform_ensures (stores : List (Store horizon))
    (hstores : ∀ store ∈ stores, store.block.start < store.block.stop ∧
      store.block.stop ≤ task.states.size) (table : Table α task.states.size horizon) :
    Ensures (Table.WrittenBy task.controls stores table)
      (fun error => ∃ store ∈ stores, ∃ cause, error = .evaluation cause ∧
        task.FailsAt store.time.val cause)
      (stores.foldlM task.perform table) := by
  induction stores generalizing table with
  | nil => exact Table.WrittenBy.nil table
  | cons store rest ih =>
      obtain ⟨hrows, hstop⟩ := hstores store List.mem_cons_self
      rw [List.foldlM_cons]
      apply ((perform_ensures table hrows hstop).mono (fun _ hwritten => hwritten)
        fun error hfails => ⟨store, List.mem_cons_self, hfails⟩).bind
      intro middle hfirst
      apply (ih (fun other hother => hstores other (List.mem_cons_of_mem store hother)) middle).mono
      · intro after hrest
        exact hfirst.append hrest
      · rintro error ⟨other, hother, hfails⟩
        exact ⟨other, List.mem_cons_of_mem store hother, hfails⟩

/-- A solve that is granted its table ends with the stores of a whole sweep made, or fails in an
evaluation at one of the times. -/
theorem solveScheduled_ensures (execution : Execution) {schedule : Schedule}
    (hschedule : schedule.Reorders) (horizon : Nat) :
    Ensures (fun table => ∃ costs : Vector α task.states.size,
        task.terminalCosts horizon = .ok costs.toList ∧
        (∀ row, Number.isFinite (costs.get row) = true) ∧
        (task.stores execution schedule horizon).foldlM task.perform
          (Table.blank.withEnds costs) = .ok table ∧
        Table.WrittenBy task.controls (task.stores execution schedule horizon)
          (Table.blank.withEnds costs) table)
      (fun error => (∃ cause, error = .table cause ∧
          Table.checkSize task.states.size horizon = .error cause) ∨
        ∃ time ≤ horizon, ∃ cause, error = .evaluation cause ∧ task.FailsAt time cause)
      (task.solveScheduled execution.chunkSize schedule horizon) := by
  cases hsize : Table.checkSize task.states.size horizon with
  | error cause =>
      rw [solveScheduled_of_refused hsize]
      exact Or.inl ⟨cause, rfl, rfl⟩
  | ok size =>
      rw [solveScheduled_of_granted hsize]
      cases hterminal : task.terminalCosts horizon with
      | error cause =>
          exact Or.inr ⟨horizon, Nat.le_refl horizon, cause, rfl,
            (terminalCosts_ensures horizon).admitted_of_error hterminal⟩
      | ok given =>
          obtain ⟨hlength, hfinite⟩ := (terminalCosts_ensures horizon).good_of_ok hterminal
          obtain ⟨costs, rfl⟩ : ∃ costs : Vector α task.states.size, given = costs.toList :=
            ⟨⟨given.toArray, by simpa using hlength⟩, by simp⟩
          have hends : ∀ row, Number.isFinite (costs.get row) = true :=
            fun row => hfinite _ (Vector.mem_toList_iff.mpr (Vector.getElem_mem row.isLt))
          have hsweep := foldlM_perform_ensures (task.stores execution schedule horizon)
            (fun _ hstore => rows_of_mem_stores hschedule hstore) (Table.blank.withEnds costs)
          simp only [Except.mapError, bind, Except.bind, Table.storeTerminal_blank,
            sweepDown_eq_foldlM]
          cases hrun : (task.stores execution schedule horizon).foldlM task.perform
              (Table.blank.withEnds costs) with
          | error error =>
              obtain ⟨store, _, cause, rfl, hfails⟩ := hsweep.admitted_of_error hrun
              exact Or.inr ⟨store.time, Nat.le_of_lt store.time.isLt, cause, rfl, hfails⟩
          | ok table =>
              have hwritten := hsweep.good_of_ok hrun
              have hfilled := isFilled_of_writtenBy_stores hschedule hwritten hends
              simp only [hfilled.isComplete, if_true]
              exact ⟨costs, rfl, hends, hrun, hwritten⟩

/-- A solve leaves no hole, whatever its callbacks do and in whatever order the blocks of a time
come.  The blocks are consecutive, have at least one row and at most as many as asked for, do not
overlap, and cover the rows.  Each store writes the cells of its rows and no others, from any table,
or fails in an evaluation; each row is written in one store at every time, and the terminal costs
before all of them.  So the only failures are a table that is not granted and failed evaluations.  A
table that is returned has finite costs and controls of the grid in all its cells, and can be
replayed. -/
theorem solveScheduled_leaves_no_gap (task : GridProblem α) (execution : Execution)
    {schedule : Schedule} (hschedule : schedule.Reorders) (horizon : Nat) :
    Block.Tile execution.chunkSize 0 (Block.cover task.states.size execution.chunkSize)
      task.states.size ∧
    ((Block.cover task.states.size execution.chunkSize).Pairwise fun first second =>
      first.stop ≤ second.start) ∧
    (∀ store ∈ task.stores execution schedule horizon, ∀ before,
      Ensures (Table.WrittenBy task.controls [store] before)
        (fun error => ∃ cause, error = .evaluation cause) (task.perform before store)) ∧
    (∀ time (row : Fin task.states.size),
      (task.stores execution schedule horizon).countP (fun store => store.Covers time row) = 1) ∧
    Ensures (fun table =>
        (∃ costs : Vector α task.states.size, task.terminalCosts horizon = .ok costs.toList ∧
          (task.stores execution schedule horizon).foldlM task.perform
            (Table.blank.withEnds costs) = .ok table ∧
          table.cost.get (Fin.last horizon) = costs.map some) ∧
        table.IsFilled task.controls ∧
        ∃ ready, Replay.ofTable task.problem task.states table = .ok ready)
      (fun error => (∃ cause, error = .table cause ∧
          Table.checkSize task.states.size horizon = .error cause) ∨
        ∃ cause, error = .evaluation cause)
      (task.solveScheduled execution.chunkSize schedule horizon) := by
  have htile : Block.Tile execution.chunkSize 0
      (Block.cover task.states.size execution.chunkSize) task.states.size :=
    Block.tile_cover execution.chunkSize_pos
  refine ⟨htile, htile.pairwise, ?_, ?_, ?_⟩
  · intro store hstore before
    obtain ⟨hrows, hstop⟩ := rows_of_mem_stores hschedule hstore
    apply (perform_ensures before hrows hstop).mono (fun _ hwritten => hwritten)
    rintro error ⟨cause, hcause, _⟩
    exact ⟨cause, hcause⟩
  · intro time row
    exact Schedule.countP_stores execution.chunkSize_pos hschedule row.isLt (Nat.le_refl horizon)
      time time.isLt
  · apply (task.solveScheduled_ensures execution hschedule horizon).mono
    · rintro table ⟨costs, hterminal, hfinite, hrun, hwritten⟩
      have hfilled := isFilled_of_writtenBy_stores hschedule hwritten hfinite
      have hends := hwritten.ends.trans (Table.get_cost_withEnds_last Table.blank costs)
      refine ⟨⟨costs, hterminal, hrun, hends⟩, hfilled, ?_⟩
      rw [Replay.ofTable, dif_pos rfl]
      simp only
      rw [dif_pos hfilled.isComplete]
      exact ⟨_, rfl⟩
    · rintro error (⟨cause, hcause, hsize⟩ | ⟨_, _, cause, hcause, _⟩)
      · exact Or.inl ⟨cause, hcause, hsize⟩
      · exact Or.inr ⟨cause, hcause⟩

/-- The tracking problem in blocks of two states, last block first: the table can be replayed. -/
theorem tracking_leaves_no_gap : Schedule.reversed.Reorders ∧
    ∃ table, (Tracking.task true).solveScheduled 2 .reversed 2 = .ok table ∧
      ∃ ready, Replay.ofTable (Tracking.task true).problem (Tracking.task true).states table =
        .ok ready := by
  refine ⟨Schedule.reversed_reorders, ?_⟩
  have hsucceeds : ((Tracking.task true).solveScheduled 2 .reversed 2).toOption.isSome = true := by
    decide +kernel
  obtain ⟨table, htable⟩ := Option.isSome_iff_exists.mp hsucceeds
  rw [toOption_eq_some_iff] at htable
  obtain ⟨_, _, _, _, houtcome⟩ := (Tracking.task true).solveScheduled_leaves_no_gap
    ⟨1, 2, by decide, by decide⟩ Schedule.reversed_reorders 2
  obtain ⟨_, _, hready⟩ := houtcome.good_of_ok htable
  exact ⟨table, htable, hready⟩

end GridProblem

end BellmanGrid
