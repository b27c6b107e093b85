import BellmanGrid.Proofs.BlockWrites
import BellmanGrid.Proofs.StageAgreement

/-!
The sweep against the recursion over whole columns.

Each block reads the finished column after its time and stores the choices of its rows.  So the
blocks of a time, in whatever order, store the choices of all rows, and one of them fails exactly
when some row has no choice.
-/

namespace BellmanGrid

/-- The blocks of each time are reordered, with none left out, added or repeated. -/
def Schedule.Reorders (schedule : Schedule) : Prop :=
  ∀ time blocks, (schedule time blocks).Perm blocks

theorem Schedule.sequential_reorders : Schedule.sequential.Reorders :=
  fun _ blocks => List.Perm.refl blocks

namespace Table

variable {α : Type} {states horizon : Nat}

/-- Once every row has been stored, the order in which that was done has left no trace. -/
theorem storeRows_eq_withStage (table : Table α states horizon) (time : Fin horizon)
    {rows : List (Fin states)} (hrows : ∀ row, row ∈ rows) (choices : Vector (Choice α) states) :
    table.storeRows time rows (rows.map choices.get) = table.withStage time choices := by
  have hcolumn : ∀ (column : Vector (Option α) states) (entry : Choice α → α),
      writeRows column rows ((rows.map choices.get).map entry) =
        choices.map fun choice => some (entry choice) := by
    intro column entry
    apply Vector.ext
    intro index hindex
    have hwritten := get_writeRows_of_mem column (fun row => entry (choices.get row))
      (hrows ⟨index, hindex⟩)
    rw [List.map_map, Vector.getElem_map]
    exact hwritten
  rw [storeRows, withStage, hcolumn, hcolumn]

theorem storeTerminal_blank (costs : Vector α states) :
    (blank : Table α states horizon).storeTerminal costs.toList =
      .ok (blank.withEnds costs) := by
  have hcolumn : ∀ hsize : costs.toList.toArray.size = states,
      Vector.mk costs.toList.toArray hsize = costs := by
    intro hsize
    apply Vector.ext
    intro index hindex
    simp
  have hunset : (blank : Table α states horizon).terminalSet = false := rfl
  simp only [storeTerminal, hunset, Bool.false_eq_true, if_false, Vector.length_toList,
    dif_pos, hcolumn]
  rfl

/-- A blank table takes any costs of which there is one for each state. -/
theorem storeTerminal_blank_eq_ok_iff {given : List α} {table : Table α states horizon} :
    (blank : Table α states horizon).storeTerminal given = .ok table ↔
      ∃ costs : Vector α states, given = costs.toList ∧ table = blank.withEnds costs := by
  constructor
  · intro hstored
    have hlength : given.length = states := by
      by_contra hne
      simp [storeTerminal, blank, hne] at hstored
    obtain ⟨costs, rfl⟩ : ∃ costs : Vector α states, given = costs.toList :=
      ⟨⟨given.toArray, by simpa using hlength⟩, by simp⟩
    rw [storeTerminal_blank, Except.ok.injEq] at hstored
    exact ⟨costs, rfl, hstored.symm⟩
  · rintro ⟨costs, rfl, rfl⟩
    exact storeTerminal_blank costs

end Table

variable {α : Type} [Number α]

theorem Grid.toList_points (grid : Grid α) :
    grid.points.toList = (List.finRange grid.size).map grid.point := by
  apply List.ext_getElem
  · rw [List.length_map, List.length_finRange]
    rfl
  · intro index _ _
    simp [Grid.point]

/-- The evaluation failed at a time, in a way that the point results admit. -/
def PointResult.FailsAt (result : PointResult α) (states controls : Grid α) (horizon time : Nat)
    (error : SolveError α) : Prop :=
  ∃ cause, error = .evaluation cause ∧ result.Admits states controls horizon time cause

/-- The run gives the expected result; where a time is expected instead, it fails at that time. -/
def PointResult.Follows {β : Type} (result : PointResult α) (states controls : Grid α)
    (horizon : Nat) (run : Except (SolveError α) β) : (expected : Except Nat β) → Prop
  | .ok found => run = .ok found
  | .error time => ∃ error, run = .error error ∧ result.FailsAt states controls horizon time error

namespace GridProblem

variable {task : GridProblem α} {result : PointResult α} {horizon : Nat}

/-! ### One block -/

theorem chooseRows_agrees (hacts : task.problem.ActsAs result)
    (next : Column α task.states.size) {time : Nat} (htime : time < horizon) {block : Block}
    (hstart : block.start < block.stop) (hstop : block.stop ≤ task.states.size) :
    Agrees (result.Admits task.states task.controls horizon time) (task.chooseRows next time block)
      ((Table.rowsBetween task.states.size block.start block.stop).mapM fun row =>
        Recursion.choice? result.finite? task.states task.controls next time
          (task.states.point row)) := by
  have hpoints : (Table.rowsBetween task.states.size block.start block.stop).map
      task.states.point = (task.states.points.extract block.start block.stop).toList :=
    Table.map_rowsBetween task.states.points block.start block.stop
  have hrows : (Table.rowsBetween task.states.size block.start block.stop).mapM (fun row =>
        Recursion.choice? result.finite? task.states task.controls next time
          (task.states.point row)) =
      (task.states.points.extract block.start block.stop).toList.mapM
        (Recursion.choice? result.finite? task.states task.controls next time) := by
    rw [← hpoints, List.mapM_map]
    rfl
  have hstates : ∀ state ∈ task.states.points.extract block.start block.stop,
      state ∈ task.states.points := fun _ hmem => Table.mem_of_mem_extract hmem
  rw [hrows, chooseRows]
  by_cases hvectorized : task.problem.vectorized = true
  · rw [if_pos hvectorized]
    have hsize : block.stop ≤ task.states.points.size := hstop
    have hblock : 0 < (task.states.points.extract block.start block.stop).size := by
      rw [Array.size_extract]
      omega
    exact Stage.chooseBlock_agrees hacts hvectorized next htime hblock hstates
  · rw [if_neg hvectorized]
    apply Agrees.mapM
    intro state hmem
    exact Stage.choose_agrees hacts (Bool.eq_false_iff.mpr hvectorized) next htime
      (hstates state (Array.mem_toList_iff.mp hmem))

/-- A block stores the choices of its rows, or fails when one of them has none. -/
theorem sweepBlock_agrees (hacts : task.problem.ActsAs result) (time : Fin horizon)
    (table : Table α task.states.size horizon) {block : Block}
    (hstart : block.start < block.stop) (hstop : block.stop ≤ task.states.size) :
    Agrees (result.FailsAt task.states task.controls horizon time)
      (task.sweepBlock time table block)
      (((Table.rowsBetween task.states.size block.start block.stop).mapM fun row =>
        Recursion.choice? result.finite? task.states task.controls (table.cost.get time.succ) time
          (task.states.point row)).map
        (table.storeRows time (Table.rowsBetween task.states.size block.start block.stop))) := by
  rw [Option.map_eq_bind]
  apply ((chooseRows_agrees hacts (table.cost.get time.succ) time.isLt hstart hstop).mapError
    fun cause hcause => ⟨cause, rfl, hcause⟩).bind
  intro choices hchoices
  rw [Table.storeStage_eq_storeRows table time (length_of_mapM_eq_some hchoices)]
  rfl

/-! ### All blocks of a time -/

/-- The rows of blocks, one block after the other. -/
def rowsOfBlocks (states : Nat) (blocks : List Block) : List (Fin states) :=
  blocks.flatMap fun block => Table.rowsBetween states block.start block.stop

/-- With a choice for every row, the blocks store the choices of all their rows. -/
theorem foldlM_sweepBlock_eq_ok (hacts : task.problem.ActsAs result) (time : Fin horizon)
    {table : Table α task.states.size horizon} {choices : Vector (Choice α) task.states.size}
    (hchoices : Recursion.choices? result.finite? task.states task.controls
      (table.cost.get time.succ) time = some choices)
    (blocks : List Block)
    (hblocks : ∀ block ∈ blocks, block.start < block.stop ∧ block.stop ≤ task.states.size) :
    blocks.foldlM (task.sweepBlock time) table =
      .ok (table.storeRows time (rowsOfBlocks task.states.size blocks)
        ((rowsOfBlocks task.states.size blocks).map choices.get)) := by
  induction blocks generalizing table with
  | nil => exact congrArg Except.ok (table.storeRows_nil time).symm
  | cons block rest ih =>
      obtain ⟨hstart, hstop⟩ := hblocks block List.mem_cons_self
      have hagrees := sweepBlock_agrees hacts time table hstart hstop
      rw [mapM_eq_some_map choices.get fun row _ =>
        ofFnM_eq_some_iff.mp hchoices row] at hagrees
      have hblock : task.sweepBlock time table block = .ok _ := hagrees
      rw [List.foldlM_cons, hblock]
      have hnext := table.get_cost_storeRows_succ time
        (Table.rowsBetween task.states.size block.start block.stop)
        ((Table.rowsBetween task.states.size block.start block.stop).map choices.get)
      have hrest := ih (by rw [hnext]; exact hchoices) fun other hother =>
        hblocks other (List.mem_cons_of_mem block hother)
      rw [Table.storeRows_storeRows] at hrest
      exact hrest

/-- A row without a choice makes its block fail, unless another block fails before. -/
theorem foldlM_sweepBlock_agrees_none (hacts : task.problem.ActsAs result) (time : Fin horizon)
    {table : Table α task.states.size horizon} {row : Fin task.states.size}
    (hrow : Recursion.choice? result.finite? task.states task.controls (table.cost.get time.succ)
      time (task.states.point row) = none)
    (blocks : List Block)
    (hblocks : ∀ block ∈ blocks, block.start < block.stop ∧ block.stop ≤ task.states.size)
    (hcovered : ∃ block ∈ blocks, block.Contains row) :
    Agrees (result.FailsAt task.states task.controls horizon time)
      (blocks.foldlM (task.sweepBlock time) table) none := by
  induction blocks generalizing table with
  | nil =>
      obtain ⟨block, hblock, _⟩ := hcovered
      exact absurd hblock List.not_mem_nil
  | cons block rest ih =>
      obtain ⟨hstart, hstop⟩ := hblocks block List.mem_cons_self
      have hagrees := sweepBlock_agrees hacts time table hstart hstop
      rw [List.foldlM_cons]
      by_cases hcontains : block.Contains row
      · rw [mapM_eq_none_of_mem (Table.mem_rowsBetween.mpr hcontains) hrow] at hagrees
        obtain ⟨error, hblock, hadmitted⟩ := hagrees
        rw [hblock]
        exact Agrees.of_error hadmitted
      · have hrest : ∃ block ∈ rest, block.Contains row := by
          obtain ⟨other, hother, hcontainsOther⟩ := hcovered
          rcases List.mem_cons.mp hother with rfl | hmem
          · exact absurd hcontainsOther hcontains
          · exact ⟨other, hmem, hcontainsOther⟩
        have hblocksRest := fun other hother => hblocks other (List.mem_cons_of_mem block hother)
        cases hblock : task.sweepBlock time table block with
        | error error =>
            exact Agrees.of_error (hagrees.admitted_of_error hblock).2
        | ok stored =>
            obtain ⟨choices, _, rfl⟩ := Option.map_eq_some_iff.mp
              ((hagrees.ok_iff stored).mp hblock)
            apply ih _ hblocksRest hrest
            rw [Table.get_cost_storeRows_succ]
            exact hrow

/-- One time of the sweep is one step of the recursion, whatever the order of its blocks. -/
theorem sweepTime_agrees (hacts : task.problem.ActsAs result) {chunkSize : Nat}
    (hchunk : 0 < chunkSize) {schedule : Schedule} (hschedule : schedule.Reorders)
    (time : Fin horizon) (table : Table α task.states.size horizon) :
    Agrees (result.FailsAt task.states task.controls horizon time)
      (task.sweepTime chunkSize schedule time table)
      ((Recursion.choices? result.finite? task.states task.controls (table.cost.get time.succ)
        time).map (table.withStage time)) := by
  have hperm := hschedule time (Block.cover task.states.size chunkSize)
  have hblocks : ∀ block ∈ schedule time (Block.cover task.states.size chunkSize),
      block.start < block.stop ∧ block.stop ≤ task.states.size :=
    fun block hblock => Block.bounds_of_mem_cover hchunk (hperm.mem_iff.mp hblock)
  have hcovered : ∀ row : Fin task.states.size,
      ∃ block ∈ schedule time (Block.cover task.states.size chunkSize), block.Contains row := by
    intro row
    obtain ⟨block, hblock, hcontains⟩ := Block.exists_mem_cover hchunk row.isLt
    exact ⟨block, hperm.mem_iff.mpr hblock, hcontains⟩
  unfold sweepTime
  cases hchoices : Recursion.choices? result.finite? task.states task.controls
      (table.cost.get time.succ) time with
  | some choices =>
      have hrows : ∀ row, row ∈ rowsOfBlocks task.states.size
          (schedule time (Block.cover task.states.size chunkSize)) := by
        intro row
        obtain ⟨block, hblock, hcontains⟩ := hcovered row
        exact List.mem_flatMap.mpr ⟨block, hblock, Table.mem_rowsBetween.mpr hcontains⟩
      rw [foldlM_sweepBlock_eq_ok hacts time hchoices _ hblocks,
        table.storeRows_eq_withStage time hrows]
      rfl
  | none =>
      obtain ⟨row, hrow⟩ := ofFnM_eq_none_iff.mp hchoices
      exact foldlM_sweepBlock_agrees_none hacts time hrow _ hblocks (hcovered row)

/-! ### The whole horizon -/

theorem sweepDown_follows (hacts : task.problem.ActsAs result) {chunkSize : Nat}
    (hchunk : 0 < chunkSize) {schedule : Schedule} (hschedule : schedule.Reorders) {time : Nat}
    (hbound : time ≤ horizon) (table : Table α task.states.size horizon) :
    result.Follows task.states task.controls horizon
      (task.sweepDown chunkSize schedule time hbound table)
      (Recursion.down result.finite? task.states task.controls time hbound table) := by
  induction time generalizing table with
  | zero => rfl
  | succ time ih =>
      have hagrees := sweepTime_agrees hacts hchunk hschedule ⟨time, hbound⟩ table
      rw [sweepDown, Recursion.down]
      cases hchoices : Recursion.choices? result.finite? task.states task.controls
          (table.cost.get (Fin.succ ⟨time, hbound⟩)) time with
      | none =>
          rw [hchoices] at hagrees
          obtain ⟨error, htime, hfails⟩ := hagrees
          rw [htime]
          exact ⟨error, rfl, hfails⟩
      | some choices =>
          rw [hchoices] at hagrees
          have htime : task.sweepTime chunkSize schedule ⟨time, hbound⟩ table = .ok _ := hagrees
          rw [htime]
          exact ih (Nat.le_of_succ_le hbound) _

theorem terminalCosts_agrees (hacts : task.problem.ActsAs result) (horizon : Nat) :
    Agrees (result.Admits task.states task.controls horizon horizon) (task.terminalCosts horizon)
      ((Recursion.ends? result.finite? task.states horizon).map Vector.toList) := by
  unfold terminalCosts
  by_cases hvectorized : task.problem.vectorized = true
  · have hblock := hacts.evaluateEnds_agrees hvectorized task.states task.controls horizon
    have hextent : extent [task.states.size] = task.states.size := by simp [extent]
    have hends : (Vector.ofFnM fun position : Fin (extent [task.states.size]) =>
          result.finite? .terminalCost (task.states.point (placeOf position)) none horizon).map
            Vector.toList =
        (Recursion.ends? result.finite? task.states horizon).map Vector.toList := by
      rw [Recursion.ends?, map_toList_ofFnM, map_toList_ofFnM]
      exact mapM_finRange_cast hextent fun index =>
        result.finite? .terminalCost (task.states.point index) none horizon
    rw [if_pos hvectorized, ← hends]
    exact hblock.map Vector.toList
  · rw [if_neg hvectorized, Recursion.ends?, map_toList_ofFnM, task.states.toList_points,
      List.mapM_map]
    apply Agrees.mapM
    intro index _
    exact hacts.evaluate_agrees (Bool.eq_false_iff.mpr hvectorized)
      (.ends (task.states.point_mem index))

/-- A table of which the size is granted has no time that is too long to be written. -/
theorem isWritableTime_of_granted {states time : Nat} {size : Nat × Nat}
    (hsize : Table.checkSize states horizon = .ok size) (htime : time ≤ horizon) :
    IsWritableTime time := by
  obtain ⟨_, hstorage, _⟩ := Table.checkSize_eq_ok_iff.mp hsize
  obtain ⟨haxes, _, _⟩ := Storage.check_eq_ok_iff.mp hstorage
  have hhorizon : horizon + 1 < Nat.pow 2 63 := haxes _ (by simp)
  have hlongest : Nat.pow 2 63 ≤ Nat.pow 10 Numeral.mostDigits := by decide +kernel
  rw [IsWritableTime, Value.isWritable, decide_eq_true_eq, Int.natAbs_natCast]
  omega

/-- A table of a size that is not granted is refused before any callback is called. -/
theorem solveScheduled_of_refused {chunkSize : Nat} {schedule : Schedule} {cause : TableError}
    (hsize : Table.checkSize task.states.size horizon = .error cause) :
    task.solveScheduled chunkSize schedule horizon = .error (.table cause) := by
  simp [solveScheduled, hsize]
  rfl

/-- A solve that an evaluation stops has been granted its table. -/
theorem isWritableTime_of_solve {execution : Execution} {cause : EvaluationError α}
    (hsolve : task.solve execution horizon = .error (.evaluation cause)) :
    IsWritableTime horizon := by
  cases hsize : Table.checkSize task.states.size horizon with
  | error refusal =>
      rw [solve, solveScheduled_of_refused hsize] at hsolve
      cases hsolve
  | ok size => exact isWritableTime_of_granted hsize (Nat.le_refl horizon)

/-- The steps of a solve once the size of its table is granted. -/
theorem solveScheduled_of_granted {chunkSize : Nat} {schedule : Schedule} {size : Nat × Nat}
    (hsize : Table.checkSize task.states.size horizon = .ok size) :
    task.solveScheduled chunkSize schedule horizon =
      (do
        let costs ← (task.terminalCosts horizon).mapError SolveError.evaluation
        let table ← (Table.blank.storeTerminal costs).mapError SolveError.table
        let table ← task.sweepDown chunkSize schedule horizon (Nat.le_refl horizon) table
        if table.isComplete then return table else throw .incomplete) := by
  rw [solveScheduled, hsize]
  rfl

/-- A solve succeeds exactly when its size is granted, its terminal costs are found, the sweep from
them gets down to time zero, and no cell is left unset. -/
theorem solveScheduled_eq_ok_iff_sweepDown {chunkSize : Nat} {schedule : Schedule}
    (table : Table α task.states.size horizon) :
    task.solveScheduled chunkSize schedule horizon = .ok table ↔
      (∃ size, Table.checkSize task.states.size horizon = .ok size) ∧
      (∃ costs : Vector α task.states.size, task.terminalCosts horizon = .ok costs.toList ∧
        task.sweepDown chunkSize schedule horizon (Nat.le_refl horizon)
          (Table.blank.withEnds costs) = .ok table) ∧
      table.isComplete = true := by
  have hfinish : ∀ found : Table α task.states.size horizon,
      (if found.isComplete then pure found else throw .incomplete : Except (SolveError α) _) =
        .ok table ↔ found = table ∧ table.isComplete = true := by
    intro found
    split
    · next hcomplete =>
        simp only [pure, Except.pure, Except.ok.injEq]
        exact ⟨fun hfound => ⟨hfound, hfound ▸ hcomplete⟩, And.left⟩
    · next hincomplete =>
        constructor
        · intro hfound
          cases hfound
        · rintro ⟨rfl, hcomplete⟩
          exact absurd hcomplete hincomplete
  cases hsize : Table.checkSize task.states.size horizon with
  | error cause => simp [solveScheduled_of_refused hsize]
  | ok size =>
      simp only [solveScheduled_of_granted hsize, bind_eq_ok_iff, mapError_eq_ok_iff,
        Table.storeTerminal_blank_eq_ok_iff, hfinish]
      constructor
      · rintro ⟨given, hterminal, stored, ⟨costs, rfl, rfl⟩, found, hsweep, rfl, hcomplete⟩
        exact ⟨⟨size, rfl⟩, ⟨costs, hterminal, hsweep⟩, hcomplete⟩
      · rintro ⟨_, ⟨costs, hterminal, hsweep⟩, hcomplete⟩
        exact ⟨costs.toList, hterminal, _, ⟨costs, rfl, rfl⟩, table, hsweep, rfl, hcomplete⟩

/-- When the size is granted, the sweep gives the table of the recursion, provided that it is
complete, and fails at the time at which the recursion has its first gap. -/
theorem solveScheduled_follows (hacts : task.problem.ActsAs result) {chunkSize : Nat}
    (hchunk : 0 < chunkSize) {schedule : Schedule} (hschedule : schedule.Reorders)
    {size : Nat × Nat} (hsize : Table.checkSize task.states.size horizon = .ok size) :
    match Recursion.solve result.finite? task.states task.controls horizon with
    | .ok table => task.solveScheduled chunkSize schedule horizon =
        if table.isComplete then .ok table else .error .incomplete
    | .error time => ∃ error,
        task.solveScheduled chunkSize schedule horizon = .error error ∧
          result.FailsAt task.states task.controls horizon time error := by
  have hends := terminalCosts_agrees hacts horizon
  rw [solveScheduled_of_granted hsize, Recursion.solve]
  cases hcosts : Recursion.ends? result.finite? task.states horizon with
  | none =>
      rw [hcosts] at hends
      obtain ⟨cause, hterminal, hadmits⟩ := hends
      rw [hterminal]
      exact ⟨.evaluation cause, rfl, cause, rfl, hadmits⟩
  | some costs =>
      rw [hcosts] at hends
      have hterminal : task.terminalCosts horizon = .ok costs.toList := hends
      have hdown := sweepDown_follows hacts hchunk hschedule (Nat.le_refl horizon)
        (Table.blank.withEnds costs)
      rw [hterminal]
      cases hresult : Recursion.down result.finite? task.states task.controls horizon
          (Nat.le_refl horizon) (Table.blank.withEnds costs) with
      | ok table =>
          rw [hresult] at hdown
          have hsweep : task.sweepDown chunkSize schedule horizon (Nat.le_refl horizon)
            (Table.blank.withEnds costs) = .ok table := hdown
          simp only [hresult, Except.mapError, bind, Except.bind, Table.storeTerminal_blank, hsweep]
          rfl
      | error time =>
          rw [hresult] at hdown
          obtain ⟨error, hsweep, hfails⟩ := hdown
          simp only [hresult]
          refine ⟨error, ?_, hfails⟩
          simp only [Except.mapError, bind, Except.bind, Table.storeTerminal_blank, hsweep]

/-- A sweep succeeds exactly when its size is granted and the recursion gives a complete table. -/
theorem solveScheduled_eq_ok_iff (hacts : task.problem.ActsAs result) {chunkSize : Nat}
    (hchunk : 0 < chunkSize) {schedule : Schedule} (hschedule : schedule.Reorders)
    (table : Table α task.states.size horizon) :
    task.solveScheduled chunkSize schedule horizon = .ok table ↔
      (∃ size, Table.checkSize task.states.size horizon = .ok size) ∧
        Recursion.solve result.finite? task.states task.controls horizon = .ok table ∧
        table.isComplete = true := by
  cases hsize : Table.checkSize task.states.size horizon with
  | error cause => simp [solveScheduled_of_refused hsize]
  | ok size =>
      have hfollows := solveScheduled_follows hacts hchunk hschedule hsize
      cases hsolve : Recursion.solve result.finite? task.states task.controls horizon with
      | error time =>
          rw [hsolve] at hfollows
          obtain ⟨error, hrun, _⟩ := hfollows
          simp [hrun]
      | ok found =>
          rw [hsolve] at hfollows
          have hrun : task.solveScheduled chunkSize schedule horizon =
            if found.isComplete then .ok found else .error .incomplete := hfollows
          rw [hrun]
          by_cases hcomplete : found.isComplete = true
          · simp only [hcomplete, if_true, Except.ok.injEq]
            constructor
            · rintro rfl
              exact ⟨⟨size, rfl⟩, rfl, hcomplete⟩
            · exact fun hgranted => hgranted.2.1
          · simp only [hcomplete]
            constructor
            · intro hfound
              cases hfound
            · rintro ⟨_, hfound, hfilled⟩
              obtain rfl := Except.ok.inj hfound
              exact absurd hfilled hcomplete

/-- A solve succeeds exactly when its size is granted and the recursion gives a complete table. -/
theorem solve_eq_ok_iff (hacts : task.problem.ActsAs result) {execution : Execution}
    {table : Table α task.states.size horizon} :
    task.solve execution horizon = .ok table ↔
      (∃ size, Table.checkSize task.states.size horizon = .ok size) ∧
        Recursion.solve result.finite? task.states task.controls horizon = .ok table ∧
        table.isComplete = true :=
  solveScheduled_eq_ok_iff hacts execution.chunkSize_pos Schedule.sequential_reorders table

/-- The table of a solve is a solution of the recursion. -/
theorem isSolution_of_solve (hacts : task.problem.ActsAs result) {execution : Execution}
    {table : Table α task.states.size horizon} (hsolve : task.solve execution horizon = .ok table) :
    Recursion.IsSolution result.finite? task.states task.controls table ∧
      table.isComplete = true := by
  obtain ⟨_, hrecursion, hcomplete⟩ := (solve_eq_ok_iff hacts).mp hsolve
  exact ⟨Recursion.isSolution_of_solve hrecursion, hcomplete⟩

end GridProblem

end BellmanGrid
