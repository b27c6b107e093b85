import BellmanGrid.Proofs.PointResults
import BellmanGrid.Proofs.SameReplies
import BellmanGrid.Proofs.SweepAgreement
import BellmanGrid.Proofs.Tracking

/-!
A horizon can be split at any time.

Two sweeps over different horizons are run side by side: the columns of the shorter one are a window
of the columns of the longer one.  Blocks read and write within the window alike as long as the
callbacks give the same replies at corresponding times, whatever these replies are, so the law needs
no callback to act entry by entry.
-/

namespace BellmanGrid

variable {α : Type}

/-- Fewer columns are granted when more are. -/
theorem Storage.check_of_le {rows fewer more : Nat} (hle : fewer ≤ more)
    (hmore : check [rows, more + 1] = .ok ()) : check [rows, fewer + 1] = .ok () := by
  have hcells : rows * (fewer + 1) ≤ rows * (more + 1) :=
    Nat.mul_le_mul_left rows (Nat.succ_le_succ hle)
  rw [check_eq_ok_iff] at hmore ⊢
  obtain ⟨haxes, hsize, hbytes⟩ := hmore
  simp only [List.forall_mem_cons, extent, List.foldr_cons, List.foldr_nil, Nat.mul_one]
    at haxes hbytes ⊢
  obtain ⟨hrows, hcolumns, _⟩ := haxes
  refine ⟨⟨hrows, by omega, by simp⟩, ?_, by omega⟩
  by_cases hpos : 0 < rows
  · simp [hpos, extent] at hsize ⊢
    omega
  · simp [hpos, extent] at hsize ⊢
    omega

/-! ### Windows of a table -/

namespace Table

variable {states horizon : Nat}

/-- The columns of `length` steps from the time `offset` on. -/
def window (table : Table α states horizon) (offset length : Nat)
    (hfits : offset + length ≤ horizon) : Table α states length where
  cost := Vector.ofFn fun time => table.cost.get ⟨offset + time, by omega⟩
  policy := Vector.ofFn fun time => table.policy.get ⟨offset + time, by omega⟩
  terminalSet := table.terminalSet

section Window

variable (table : Table α states horizon) {offset length : Nat} (hfits : offset + length ≤ horizon)

@[simp]
theorem cost_window {time : Nat} (htime : time < length + 1) :
    (table.window offset length hfits).cost[time] = table.cost[offset + time] :=
  Vector.getElem_ofFn _

@[simp]
theorem policy_window {time : Nat} (htime : time < length) :
    (table.window offset length hfits).policy[time] = table.policy[offset + time] :=
  Vector.getElem_ofFn _

/-- Writing a column within the window. -/
theorem window_withColumns {time : Nat} (htime : time < length) (hhorizon : offset + time < horizon)
    (costs controls : Vector (Option α) states) :
    (table.withColumns ⟨offset + time, hhorizon⟩ costs controls).window offset length hfits =
      (table.window offset length hfits).withColumns ⟨time, htime⟩ costs controls := by
  simp only [window, withColumns, Table.mk.injEq, and_true]
  constructor
  · apply Vector.ext
    intro other hother
    simp [get_eq_getElem, Vector.getElem_set]
  · apply Vector.ext
    intro other hother
    simp [get_eq_getElem, Vector.getElem_set]

/-- A column before the window does not show in it. -/
theorem window_withColumns_of_lt {time : Fin horizon} (htime : time.val < offset)
    (costs controls : Vector (Option α) states) :
    (table.withColumns time costs controls).window offset length hfits =
      table.window offset length hfits := by
  have hne : ∀ other, time.val ≠ offset + other := by omega
  simp only [window, withColumns, Table.mk.injEq, and_true]
  constructor
  · apply Vector.ext
    intro other hother
    simp [get_eq_getElem, hne]
  · apply Vector.ext
    intro other hother
    simp [get_eq_getElem, hne]

/-- Storing a stage within the window. -/
theorem toOption_storeStage_window {time : Nat} (htime : time < length) (start stop : Nat)
    (costs controls : List α) :
    ((table.window offset length hfits).storeStage time start stop costs controls).toOption =
      (table.storeStage (offset + time) start stop costs controls).toOption.map
        (window · offset length hfits) := by
  have hhorizon : offset + time < horizon := by omega
  have hcost : (table.window offset length hfits).cost.get (Fin.castSucc ⟨time, htime⟩) =
      table.cost.get (Fin.castSucc ⟨offset + time, hhorizon⟩) :=
    table.cost_window hfits (Nat.lt_succ_of_lt htime)
  have hpolicy : (table.window offset length hfits).policy.get ⟨time, htime⟩ =
      table.policy.get ⟨offset + time, hhorizon⟩ :=
    table.policy_window hfits htime
  simp only [storeStage, htime, hhorizon, dif_pos]
  split
  · rfl
  · split
    · rfl
    · rw [hcost, hpolicy]
      exact congrArg some (table.window_withColumns hfits htime hhorizon _ _).symm

end Window

/-- Storing a stage changes no columns but those of its time. -/
theorem exists_withColumns_of_storeStage {table stored : Table α states horizon}
    {time : Fin horizon} {start stop : Nat} {costs controls : List α}
    (hstore : table.storeStage time start stop costs controls = .ok stored) :
    ∃ costColumn policyColumn, stored = table.withColumns time costColumn policyColumn := by
  simp only [storeStage, time.isLt, dif_pos] at hstore
  split at hstore
  · cases hstore
  · split at hstore
    · cases hstore
    · exact ⟨_, _, (Except.ok.inj hstore).symm⟩

/-- What a window has no column for is complete when the table is. -/
theorem isComplete_window [Number α] {table : Table α states horizon}
    (hcomplete : table.isComplete = true) {offset length : Nat}
    (hfits : offset + length ≤ horizon) :
    (table.window offset length hfits).isComplete = true := by
  rw [isComplete_iff] at hcomplete ⊢
  obtain ⟨hcost, hpolicy⟩ := hcomplete
  constructor
  · intro time htime state hstate
    rw [cost_window]
    exact hcost (offset + time) (by omega) state hstate
  · intro time htime state hstate
    rw [policy_window]
    exact hpolicy (offset + time) (by omega) state hstate

@[simp]
theorem cost_withEnds_blank (costs : Vector α states) {time : Nat} (htime : time < horizon) :
    ((blank : Table α states horizon).withEnds costs).cost[time] =
      Vector.replicate states none := by
  simp only [withEnds, blank]
  rw [Vector.getElem_set_ne _ _ (Nat.ne_of_gt htime), Vector.getElem_replicate]

@[simp]
theorem policy_withEnds_blank (costs : Vector α states) {time : Nat} (htime : time < horizon) :
    ((blank : Table α states horizon).withEnds costs).policy[time] =
      Vector.replicate states none :=
  Vector.getElem_replicate _

/-- Each column of costs of a complete table holds a cost for every state. -/
theorem exists_costs_of_isComplete [Number α] {table : Table α states horizon}
    (hcomplete : table.isComplete = true) {time : Nat} (htime : time < horizon + 1) :
    ∃ costs : Vector α states, table.cost[time] = costs.map some := by
  have hsome : ∀ state (hstate : state < states), (table.cost[time][state]).isSome = true := by
    intro state hstate
    have hfilled := (isComplete_iff table).mp hcomplete |>.1 time htime state hstate
    exact Option.isSome_of_any hfilled
  refine ⟨Vector.ofFn fun state => (table.cost[time][state]).get (hsome state state.isLt), ?_⟩
  apply Vector.ext
  intro state hstate
  simp

/-- Where the columns before the end are still blank, a window is a blank table with its end. -/
theorem window_eq_withEnds {table : Table α states horizon} {offset length : Nat}
    (hfits : offset + length ≤ horizon) (hset : table.terminalSet = true)
    {costs : Vector α states} (hend : table.cost[offset + length] = costs.map some)
    (hcost : ∀ time (htime : time < offset + length),
      table.cost[time] = Vector.replicate states none)
    (hpolicy : ∀ time (htime : time < offset + length),
      table.policy[time] = Vector.replicate states none) :
    table.window offset length hfits = blank.withEnds costs := by
  simp only [window, withEnds, blank, hset, Table.mk.injEq, and_true]
  constructor
  · apply Vector.ext
    intro time htime
    rw [Vector.getElem_ofFn, Vector.getElem_set]
    split
    · next hlast =>
        subst hlast
        exact hend
    · rw [Vector.getElem_replicate]
      exact hcost (offset + time) (by omega)
  · apply Vector.ext
    intro time htime
    rw [Vector.getElem_ofFn, Vector.getElem_replicate]
    exact hpolicy (offset + time) (by omega)

/-- A table over a shorter horizon is granted when one over a longer horizon is. -/
theorem checkSize_of_le {shorter longer : Nat} (hle : shorter ≤ longer) {size : Nat × Nat}
    (hsize : checkSize states longer = .ok size) :
    checkSize states shorter = .ok (states, shorter) := by
  rw [checkSize_eq_ok_iff] at hsize ⊢
  obtain ⟨hstates, hstorage, _⟩ := hsize
  exact ⟨hstates, Storage.check_of_le hle hstorage, rfl⟩

end Table

variable [Number α]

namespace Problem

/-- At a time the terminal cost sends each point of a grid to its cost. -/
structure EndsWith (problem : Problem α) (states : Grid α) (time : Int)
    (costs : Vector α states.size) : Prop where
  points : problem.vectorized = false → ∀ index,
    (problem.terminalCost (states.point index) time).result? = some (.ok (costs.get index))
  block : problem.vectorized = true →
    (problem.terminalCostBlock (Tensor.row states.points) time).results? [states.size] =
      some (Vector.ofFn fun position => .ok (costs.get (placeOf position)))

namespace EndsWith

variable {problem : Problem α} {states : Grid α} {time : Int} {costs : Vector α states.size}

theorem evaluate_agrees (hends : problem.EndsWith states time costs)
    (hscalar : problem.vectorized = false) (index : Fin states.size) :
    Agrees (fun _ => True) (problem.evaluate .terminalCost (states.point index) none time)
      (some (costs.get index)) := by
  have hagrees := problem.evaluate_agrees .terminalCost (states.point index) none time
  have hreply : (problem.callAt .terminalCost (states.point index) none time).result? = _ :=
    hends.points hscalar index
  rw [hreply] at hagrees
  exact hagrees.mono fun _ _ => trivial

theorem evaluateBlock_eq (hends : problem.EndsWith states time costs)
    (hvectorized : problem.vectorized = true) :
    problem.evaluateBlock .terminalCost (Tensor.row states.points) none time [states.size] =
      .ok (Vector.ofFn fun position => costs.get (placeOf position)) := by
  have hfits : (Tensor.row states.points).fits [states.size] = true :=
    Tensor.fits_row states.points
  have hnone : (none : Option (Tensor α)).any (!·.fits [states.size]) = false := rfl
  have hagrees := problem.evaluateBlock_agrees .terminalCost time hfits hnone
  have hreply : (problem.callOnBlock .terminalCost (Tensor.row states.points) none
    time).results? [states.size] = _ := hends.block hvectorized
  have hfinite : finiteEntries? (Vector.ofFn fun position =>
      (.ok (costs.get (placeOf position)) : Except NonFinite α)) =
        some (Vector.ofFn fun position => costs.get (placeOf position)) := by
    rw [finiteEntries?, ofFnM_eq_some_iff]
    intro position
    rw [get_ofFn, get_ofFn]
    rfl
  rw [hreply, Option.bind_some, hfinite] at hagrees
  exact hagrees

end EndsWith

end Problem

namespace GridProblem

/-! ### Sweeps over a window -/

variable {first second : Problem α} {states controls : Grid α} {horizon offset length : Nat}

section Step

variable (hfits : offset + length ≤ horizon)

/-- Within the window a block is worked on alike. -/
theorem toOption_sweepBlock_window {time : Nat} (htime : time < length)
    (halike : first.StepsAlike second time (offset + time : Nat))
    (table : Table α states.size horizon) (block : Block) :
    (sweepBlock ⟨first, states, controls⟩ ⟨time, htime⟩ (table.window offset length hfits)
      block).toOption =
    (sweepBlock ⟨second, states, controls⟩ ⟨offset + time, by omega⟩ table block).toOption.map
      (Table.window · offset length hfits) := by
  have hnext : (table.window offset length hfits).cost.get (Fin.succ ⟨time, htime⟩) =
      table.cost.get (Fin.succ ⟨offset + time, by omega⟩) :=
    table.cost_window hfits (Nat.succ_lt_succ htime)
  simp only [sweepBlock, toOption_bind, toOption_mapError, hnext,
    toOption_chooseRows_congr halike, Option.map_bind]
  congr 1
  funext choices
  exact table.toOption_storeStage_window hfits htime block.start block.stop _ _

/-- Within the window a time is worked on alike. -/
theorem toOption_sweepTime_window (chunkSize : Nat) {time : Nat} (htime : time < length)
    (halike : first.StepsAlike second time (offset + time : Nat))
    (table : Table α states.size horizon) :
    (sweepTime ⟨first, states, controls⟩ chunkSize .sequential ⟨time, htime⟩
      (table.window offset length hfits)).toOption =
    (sweepTime ⟨second, states, controls⟩ chunkSize .sequential ⟨offset + time, by omega⟩
      table).toOption.map (Table.window · offset length hfits) :=
  toOption_foldlM_map (Table.window · offset length hfits)
    (toOption_sweepBlock_window hfits htime halike) _ table

end Step

/-- Working on a time changes no columns but those of that time. -/
theorem exists_withColumns_of_sweepTime {task : GridProblem α} {chunkSize : Nat}
    {schedule : Schedule} {time : Fin horizon} {table stored : Table α task.states.size horizon}
    (hsweep : task.sweepTime chunkSize schedule time table = .ok stored) :
    ∃ costs policy, stored = table.withColumns time costs policy := by
  unfold sweepTime at hsweep
  generalize schedule time (Block.cover task.states.size chunkSize) = blocks at hsweep
  induction blocks generalizing table with
  | nil =>
      obtain rfl := Except.ok.inj hsweep
      exact ⟨_, _, table.withColumns_self time |>.symm⟩
  | cons block rest ih =>
      rw [List.foldlM_cons] at hsweep
      obtain ⟨next, hblock, hrest⟩ := bind_eq_ok_iff.mp hsweep
      obtain ⟨costs, policy, rfl⟩ := ih hrest
      obtain ⟨choices, _, hstore⟩ := bind_eq_ok_iff.mp hblock
      obtain ⟨_, _, rfl⟩ := Table.exists_withColumns_of_storeStage (mapError_eq_ok_iff.mp hstore)
      exact ⟨costs, policy, Table.withColumns_withColumns _ _ _ _ _ _⟩

/-- What is done before a window does not show in it. -/
theorem window_of_sweepDown {task : GridProblem α} {chunkSize : Nat} {schedule : Schedule}
    {time : Nat} {hbound : time ≤ horizon} {table final : Table α task.states.size horizon}
    (hsweep : task.sweepDown chunkSize schedule time hbound table = .ok final)
    (hoffset : time ≤ offset) (hfits : offset + length ≤ horizon) :
    final.window offset length hfits = table.window offset length hfits := by
  induction time generalizing table with
  | zero =>
      obtain rfl := Except.ok.inj hsweep
      rfl
  | succ time ih =>
      obtain ⟨stored, htime, hrest⟩ := bind_eq_ok_iff.mp hsweep
      obtain ⟨costs, policy, rfl⟩ := exists_withColumns_of_sweepTime htime
      rw [ih hrest (Nat.le_of_succ_le hoffset)]
      exact table.window_withColumns_of_lt hfits (Nat.lt_of_succ_le hoffset) costs policy

/-- A sweep that gets down to time zero passes every time before, and has not touched the columns
below it yet. -/
theorem exists_sweepDown_of_le {task : GridProblem α} {chunkSize : Nat} {schedule : Schedule}
    {time : Nat} {hbound : time ≤ horizon} {table final : Table α task.states.size horizon}
    (hsweep : task.sweepDown chunkSize schedule time hbound table = .ok final) {split : Nat}
    (hsplit : split ≤ time) :
    ∃ passed,
      task.sweepDown chunkSize schedule split (Nat.le_trans hsplit hbound) passed = .ok final ∧
      passed.terminalSet = table.terminalSet ∧
      (∀ earlier (hearlier : earlier < split), passed.cost[earlier] = table.cost[earlier]) ∧
      ∀ earlier (hearlier : earlier < split), passed.policy[earlier] = table.policy[earlier] := by
  induction time generalizing table with
  | zero =>
      obtain rfl : split = 0 := Nat.le_zero.mp hsplit
      exact ⟨table, hsweep, rfl, fun _ _ => rfl, fun _ _ => rfl⟩
  | succ time ih =>
      by_cases hequal : split = time + 1
      · subst hequal
        exact ⟨table, hsweep, rfl, fun _ _ => rfl, fun _ _ => rfl⟩
      · obtain ⟨stored, htime, hrest⟩ := bind_eq_ok_iff.mp hsweep
        obtain ⟨costs, policy, rfl⟩ := exists_withColumns_of_sweepTime htime
        have hle : split ≤ time := by omega
        obtain ⟨passed, hpassed, hset, hcost, hpolicy⟩ := ih hrest hle
        refine ⟨passed, hpassed, hset, ?_, ?_⟩
        · intro earlier hearlier
          rw [hcost earlier hearlier]
          exact Table.cost_withColumns_of_ne _ _ _ _ (by simp only; omega) _
        · intro earlier hearlier
          rw [hpolicy earlier hearlier]
          exact Table.policy_withColumns_of_ne _ _ _ _ (by simp only; omega) _

/-- Within the window the sweeps run side by side; below it the longer one goes on alone. -/
theorem sweepDown_window (hfits : offset + length ≤ horizon) {chunkSize time : Nat}
    (htime : time ≤ length)
    (halike : ∀ earlier < time, first.StepsAlike second earlier (offset + earlier : Nat))
    {table final : Table α states.size horizon}
    (hsweep : sweepDown ⟨second, states, controls⟩ chunkSize .sequential (offset + time)
      (by omega) table = .ok final) :
    sweepDown ⟨first, states, controls⟩ chunkSize .sequential time htime
      (table.window offset length hfits) = .ok (final.window offset length hfits) := by
  induction time generalizing table with
  | zero => rw [window_of_sweepDown hsweep (Nat.le_refl offset) hfits, sweepDown]
  | succ time ih =>
      obtain ⟨stored, hstored, hrest⟩ := bind_eq_ok_iff.mp hsweep
      have hwindow : (sweepTime ⟨first, states, controls⟩ chunkSize .sequential ⟨time, htime⟩
          (table.window offset length hfits)).toOption = _ :=
        toOption_sweepTime_window hfits chunkSize htime (halike time (Nat.lt_succ_self time)) table
      have hlonger : sweepTime ⟨second, states, controls⟩ chunkSize .sequential
          ⟨offset + time, by omega⟩ table = .ok stored := hstored
      rw [hlonger] at hwindow
      replace hwindow := toOption_eq_some_iff.mp hwindow
      rw [sweepDown, hwindow]
      exact ih _ (fun earlier hearlier => halike earlier (Nat.lt_succ_of_lt hearlier)) hrest

/-- A solve that succeeds has found its terminal costs and has swept from them down to the start. -/
theorem exists_sweepDown_of_solve {task : GridProblem α} {execution : Execution}
    {table : Table α task.states.size horizon} (hsolve : task.solve execution horizon = .ok table) :
    (∃ size, Table.checkSize task.states.size horizon = .ok size) ∧
      (∃ costs : Vector α task.states.size, task.terminalCosts horizon = .ok costs.toList ∧
        task.sweepDown execution.chunkSize .sequential horizon (Nat.le_refl horizon)
          (Table.blank.withEnds costs) = .ok table) ∧
      table.isComplete = true :=
  (solveScheduled_eq_ok_iff_sweepDown table).mp hsolve

/-- A solve over a longer horizon shows, in a window of its table, the solve of every problem that
takes the same steps there and whose terminal costs are the column at the end of the window. -/
theorem solve_window {execution : Execution} (hfits : offset + length ≤ horizon)
    {table : Table α states.size horizon}
    (hsolve : solve ⟨second, states, controls⟩ execution horizon = .ok table)
    (halike : ∀ time < length, first.StepsAlike second time (offset + time : Nat))
    {costs : Vector α states.size}
    (hends : terminalCosts ⟨first, states, controls⟩ length = .ok costs.toList)
    (hcosts : table.cost[offset + length] = costs.map some) :
    solve ⟨first, states, controls⟩ execution length = .ok (table.window offset length hfits) := by
  obtain ⟨⟨size, hsize⟩, ⟨ends, _, hsweep⟩, hcomplete⟩ := exists_sweepDown_of_solve hsolve
  obtain ⟨passed, hpassed, hset, hcost, hpolicy⟩ := exists_sweepDown_of_le hsweep hfits
  have hend : passed.cost[offset + length] = costs.map some := by
    have hpoint : offset + length + 0 ≤ horizon := hfits
    have hcolumn := window_of_sweepDown hpassed (Nat.le_refl _) hpoint
    rw [← hcosts]
    exact congrArg (fun window => window.cost[0]) hcolumn.symm
  have hblank : passed.window offset length hfits = Table.blank.withEnds costs := by
    apply Table.window_eq_withEnds hfits hset hend
    · intro time htime
      rw [hcost time htime, Table.cost_withEnds_blank ends (by omega)]
    · intro time htime
      rw [hpolicy time htime, Table.policy_withEnds_blank ends (by omega)]
  rw [solve, solveScheduled_eq_ok_iff_sweepDown]
  refine ⟨⟨_, Table.checkSize_of_le (by omega) hsize⟩, ⟨costs, hends, ?_⟩,
    Table.isComplete_window hcomplete hfits⟩
  rw [← hblank]
  exact sweepDown_window hfits (Nat.le_refl length) halike hpassed

/-- The last steps of a horizon are those of every problem that takes the same steps to the same
end. -/
theorem solve_window_last {execution : Execution} (hlast : offset + length = horizon)
    {table : Table α states.size horizon}
    (hsolve : solve ⟨second, states, controls⟩ execution horizon = .ok table)
    (hsteps : ∀ time < length, first.StepsAlike second time (offset + time : Nat))
    (hend : first.EndsAlike second length horizon) :
    solve ⟨first, states, controls⟩ execution length =
      .ok (table.window offset length (Nat.le_of_eq hlast)) := by
  subst hlast
  obtain ⟨_, ⟨costs, hcosts, hsweep⟩, _⟩ := exists_sweepDown_of_solve hsolve
  have hcolumn : table.cost[offset + length] = costs.map some := by
    have hpoint : offset + length + 0 ≤ offset + length := Nat.le_refl _
    have hwindow := window_of_sweepDown hsweep (Nat.le_refl _) hpoint
    have hstart : ((Table.blank : Table α states.size (offset + length)).withEnds costs).cost[
        offset + length] = costs.map some := Vector.getElem_set_self _
    rw [← hstart]
    exact congrArg (fun window => window.cost[0]) hwindow
  refine solve_window (Nat.le_refl _) hsolve hsteps ?_ hcolumn
  rw [← toOption_eq_some_iff, toOption_terminalCosts_congr hend]
  exact toOption_eq_some_iff.mpr hcosts

/-! ### Both parts of a horizon -/

theorem toList_eq_map_get {β : Type} {count : Nat} (entries : Vector β count) :
    entries.toList = (List.finRange count).map entries.get := by
  apply List.ext_getElem <;> simp [get_eq_getElem]

/-- Where the terminal costs are the given ones, they are the last column. -/
theorem terminalCosts_of_endsWith {problem : Problem α} {time : Nat}
    {costs : Vector α states.size} (hends : problem.EndsWith states time costs) :
    terminalCosts ⟨problem, states, controls⟩ time = .ok costs.toList := by
  unfold terminalCosts
  by_cases hvectorized : problem.vectorized = true
  · rw [if_pos hvectorized, hends.evaluateBlock_eq hvectorized]
    apply congrArg Except.ok
    apply List.ext_getElem
    · simp [extent]
    · intro index hindex _
      simp [get_eq_getElem, placeOf]
  · have hpoints := Agrees.mapM (List.finRange states.size) fun index _ =>
      hends.evaluate_agrees (Bool.eq_false_iff.mpr hvectorized) index
    rw [mapM_eq_some_map costs.get fun _ _ => rfl, ← toList_eq_map_get] at hpoints
    rw [if_neg hvectorized, states.toList_points, List.mapM_map]
    exact hpoints

/-- When time does not matter, tables with the same number of steps left end alike. -/
theorem window_eq_of_timeInvariant {problem : Problem α} (hinvariant : problem.TimeInvariant)
    {execution : Execution} {time otherTime length : Nat}
    {table : Table α states.size (time + length)}
    {otherTable : Table α states.size (otherTime + length)}
    (hsolve : solve ⟨problem, states, controls⟩ execution (time + length : Nat) = .ok table)
    (hother : solve ⟨problem, states, controls⟩ execution (otherTime + length : Nat) =
      .ok otherTable) :
    table.window time length (Nat.le_refl _) =
      otherTable.window otherTime length (Nat.le_refl _) := by
  have hfirst : solve ⟨problem, states, controls⟩ execution length = .ok _ :=
    solve_window_last rfl hsolve (fun _ _ => hinvariant.steps _ _) (hinvariant.ends _ _)
  have hsecond : solve ⟨problem, states, controls⟩ execution length = .ok _ :=
    solve_window_last rfl hother (fun _ _ => hinvariant.steps _ _) (hinvariant.ends _ _)
  rw [hfirst, Except.ok.injEq] at hsecond
  exact hsecond

/-- A horizon can be split at any time.  From the split on, the table is the one of the problem
shifted in time; up to the split, it is the one of every problem that takes the same steps and ends
with the column of the split.  So without regard to the time, a column depends on the number of
steps that are left. -/
theorem solve_split {problem : Problem α} {execution : Execution}
    {table : Table α states.size horizon}
    (hsolve : solve ⟨problem, states, controls⟩ execution horizon = .ok table) :
    (∀ (split : Nat) (hsplit : split ≤ horizon),
      solve ⟨problem.shift split, states, controls⟩ execution (horizon - split) =
        .ok (table.window split (horizon - split) (by omega)) ∧
      ∃ costs : Vector α states.size,
        table.cost.get ⟨split, Nat.lt_succ_of_le hsplit⟩ = costs.map some ∧
        ∀ head : Problem α, (∀ time : Int, head.StepsAlike problem time time) →
          head.EndsWith states split costs →
            solve ⟨head, states, controls⟩ execution split =
              .ok (table.window 0 split (by omega))) ∧
    (problem.TimeInvariant → ∀ (other : Nat) (otherTable : Table α states.size other),
      solve ⟨problem, states, controls⟩ execution other = .ok otherTable →
        ∀ (time : Nat) (htime : time ≤ horizon) (otherTime : Nat) (hother : otherTime ≤ other),
          horizon - time = other - otherTime →
            table.cost.get ⟨time, Nat.lt_succ_of_le htime⟩ =
              otherTable.cost.get ⟨otherTime, Nat.lt_succ_of_le hother⟩ ∧
            ∀ (hstep : time < horizon) (hotherStep : otherTime < other),
              table.policy.get ⟨time, hstep⟩ = otherTable.policy.get ⟨otherTime, hotherStep⟩) := by
  obtain ⟨_, _, hcomplete⟩ := exists_sweepDown_of_solve hsolve
  refine ⟨fun split hsplit => ⟨?_, ?_⟩, ?_⟩
  · apply solve_window_last (by omega) hsolve (fun time _ => problem.shift_stepsAlike split time)
    have hend := problem.shift_endsAlike split (horizon - split)
    rwa [Nat.add_sub_cancel' hsplit] at hend
  · obtain ⟨costs, hcosts⟩ := Table.exists_costs_of_isComplete hcomplete (Nat.lt_succ_of_le hsplit)
    refine ⟨costs, hcosts, fun head halike hend => ?_⟩
    apply solve_window (by omega) hsolve _ (terminalCosts_of_endsWith hend)
    · simpa using hcosts
    · intro time _
      simpa using halike time
  · intro hinvariant other otherTable hother time htime otherTime hotherTime hleft
    obtain ⟨length, rfl⟩ := Nat.exists_eq_add_of_le htime
    obtain rfl : other = otherTime + length := by omega
    -- Both tables end with the table of the steps that are left.
    have hwindows := window_eq_of_timeInvariant hinvariant hsolve hother
    refine ⟨?_, fun hstep _ => ?_⟩
    · have hcolumn := congrArg (fun window => window.cost[0]) hwindows
      simpa [get_eq_getElem] using hcolumn
    · have hpos : 0 < length := by omega
      have hcolumn := congrArg (fun window => window.policy[0]) hwindows
      simpa [get_eq_getElem] using hcolumn

end GridProblem

namespace Tracking

/-- A problem in which controls and states weigh more as time goes on. -/
def growing (terminalCost : Float → Float) : Problem Float :=
  Problem.ofFunctions "FunctionProblem" false
    (fun time state control => state + Number.ofInt time * control)
    (fun time state control => Number.ofInt (time + 1) * state * state + control * control)
    (fun _ => terminalCost)

/-- Ends with the costs that the problem with the squared distance to two has at time one. -/
def early : Problem Float :=
  growing fun state => Number.ofInt 3 * state * state - Number.ofInt 2 * state + Number.ofInt 2

/-- Ends with the squared distance to two. -/
def late : Problem Float :=
  growing fun state => (state - Number.ofInt 2) * (state - Number.ofInt 2)

def columnOfOne : Vector Float grid.size :=
  #v[Number.ofInt 7, Number.ofInt 2, Number.ofInt 3]

theorem early_endsWith : early.EndsWith grid 1 columnOfOne where
  points _ := by
    have hcosts : ∀ index : Fin grid.size, NonFinite.ofFloat? (columnOfOne.get index) = none ∧
        Number.ofInt 3 * grid.point index * grid.point index - Number.ofInt 2 * grid.point index +
          Number.ofInt 2 = columnOfOne.get index := by
      decide +kernel
    intro index
    obtain ⟨hfinite, hcost⟩ := hcosts index
    have hreply : early.terminalCost (grid.point index) 1 = .number (columnOfOne.get index) :=
      congrArg Reply.number hcost
    rw [hreply, Reply.result?, NonFinite.judge, show Number.nonFinite? _ = none from hfinite]
    rfl
  block hvectorized := Bool.noConfusion hvectorized

theorem timeInvariant (vectorized : Bool) : (task vectorized).problem.TimeInvariant where
  steps _ _ := ⟨rfl, fun _ _ => rfl, fun _ _ => rfl, fun _ _ => rfl, fun _ _ => rfl⟩
  ends _ _ := ⟨rfl, fun _ => rfl, fun _ => rfl⟩

/-- Two steps of growing weights are one step of the shifted problem after one step that ends with
the costs of time one.  With constant weights, the first of one step is the second of two. -/
theorem exists_solve_split :
    (∃ table, GridProblem.solve ⟨late, grid, grid⟩ .standard 2 = .ok table ∧
      GridProblem.solve ⟨late.shift 1, grid, grid⟩ .standard 1 =
        .ok (table.window 1 1 (by decide)) ∧
      GridProblem.solve ⟨early, grid, grid⟩ .standard 1 = .ok (table.window 0 1 (by decide))) ∧
    ∃ shorter longer, (task true).solve .standard 1 = .ok shorter ∧
      (task true).solve .standard 2 = .ok longer ∧ shorter.cost[0] = longer.cost[1] ∧
      shorter.policy[0] = longer.policy[1] := by
  constructor
  · have hcolumn : (GridProblem.solve ⟨late, grid, grid⟩ .standard 2).toOption.map
        (fun table => table.cost[1].toList) = some (columnOfOne.map some).toList := by
      decide +kernel
    cases hsolve : GridProblem.solve ⟨late, grid, grid⟩ .standard 2 with
    | error error => simp [hsolve, Except.toOption] at hcolumn
    | ok table =>
        rw [hsolve] at hcolumn
        obtain ⟨hlast, costs, hcosts, hfirst⟩ :=
          (GridProblem.solve_split hsolve).1 1 (by decide)
        have hsame : costs.map some = columnOfOne.map some := by
          rw [← hcosts]
          exact Vector.toList_inj.mp (Option.some.inj hcolumn)
        obtain rfl : costs = columnOfOne :=
          (Vector.map_inj_right fun _ _ => Option.some.inj).mp hsame
        exact ⟨table, rfl, hlast, hfirst early (fun _ =>
          ⟨rfl, fun _ _ => rfl, fun _ _ => rfl, fun _ _ => rfl, fun _ _ => rfl⟩) early_endsWith⟩
  · have hsucceeds : ((task true).solve .standard 1).isOk = true ∧
        ((task true).solve .standard 2).isOk = true := by
      decide +kernel
    cases hshorter : (task true).solve .standard 1 with
    | error error => simp [hshorter, Except.isOk, Except.toBool] at hsucceeds
    | ok shorter =>
        cases hlonger : (task true).solve .standard 2 with
        | error error => simp [hlonger, Except.isOk, Except.toBool] at hsucceeds
        | ok longer =>
            obtain ⟨hcost, hpolicy⟩ := (GridProblem.solve_split hshorter).2 (timeInvariant true) 2
              longer hlonger 0 (by decide) 1 (by decide) rfl
            exact ⟨shorter, longer, rfl, rfl, hcost, hpolicy (by decide) (by decide)⟩

end Tracking

end BellmanGrid
