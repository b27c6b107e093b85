import BellmanGrid.Proofs.PairChecks
import BellmanGrid.Proofs.SweepAgreement
import BellmanGrid.Proofs.Tracking
import Mathlib.Order.Fin.Basic

/-!
The offence that a failed solve reports.

Both modes report one failing check of the first time, from the end, that has any.  Evaluated point
by point, it is the first failing check of the first pair that has one.  Evaluated in blocks, the
first block with an offence comes first, and in it the kind of the check comes before the pair.  So
the two reports are the same unless another pair of the block fails an earlier kind of check, and
then the one of the blocks depends on the block size.
-/

namespace BellmanGrid

/-- A check of a state and a control of two grids. -/
structure PairCheck (states controls : Nat) where
  state : Fin states
  control : Fin controls
  check : Check
deriving DecidableEq

namespace PairCheck

variable {states controls : Nat}

/-- State by state, control by control, and check by check. -/
def BeforeByPair (first second : PairCheck states controls) : Prop :=
  first.state < second.state ∨ first.state = second.state ∧
    (first.control < second.control ∨ first.control = second.control ∧
      first.check.rank < second.check.rank)

/-- Check by check, and each of them state by state and control by control. -/
def BeforeByCheck (first second : PairCheck states controls) : Prop :=
  first.check.rank < second.check.rank ∨ first.check = second.check ∧
    (first.state < second.state ∨ first.state = second.state ∧ first.control < second.control)

/-- Block by block, and in an order of its own within a block. -/
def BeforeInBlocks (chunkSize : Nat)
    (within : PairCheck states controls → PairCheck states controls → Prop)
    (first second : PairCheck states controls) : Prop :=
  first.state.val / chunkSize < second.state.val / chunkSize ∨
    first.state.val / chunkSize = second.state.val / chunkSize ∧ within first second

end PairCheck

variable {α : Type}

/-- A failing check with its report, before which no check fails. -/
structure IsFirstOffence {states controls : Nat}
    (offence? : PairCheck states controls → Option (CallbackFailure α))
    (before : PairCheck states controls → PairCheck states controls → Prop)
    (first : PairCheck states controls) (failure : CallbackFailure α) : Prop where
  offends : offence? first = some failure
  first : ∀ other, before other first → offence? other = none

/-- The rows of a block have a first offence in an order, and the block fails with its report. -/
def Block.ReportsFirst {states controls : Nat} (block : Block)
    (offence? : PairCheck states controls → Option (CallbackFailure α))
    (within : PairCheck states controls → PairCheck states controls → Prop)
    (cause : EvaluationError α) : Prop :=
  ∃ first failure, block.Contains first.state ∧ cause = .callback failure ∧
    offence? first = some failure ∧
    ∀ other : PairCheck states controls, block.Contains other.state → within other first →
      offence? other = none

theorem Check.rank_injective : Function.Injective Check.rank := by
  intro first second hrank
  cases first <;> cases second <;> first | rfl | exact absurd hrank (by decide)

namespace IsFirstOffence

variable {states controls chunkSize : Nat} {failure other : CallbackFailure α}
  {offence? : PairCheck states controls → Option (CallbackFailure α)}
  {reported lowest : PairCheck states controls}

/-- By pairs the blocks do not matter. -/
theorem byPair (hfirst : IsFirstOffence offence?
      (PairCheck.BeforeInBlocks chunkSize PairCheck.BeforeByPair) lowest failure) :
    IsFirstOffence offence? PairCheck.BeforeByPair lowest failure := by
  refine ⟨hfirst.offends, fun place hplace => hfirst.first place ?_⟩
  have hle : place.state ≤ lowest.state := by
    rcases hplace with hlt | ⟨hequal, _⟩
    · exact Fin.le_of_lt hlt
    · exact Fin.le_of_eq hequal
  rcases Nat.lt_or_eq_of_le (Nat.div_le_div_right hle) with hlt | hequal
  · exact .inl hlt
  · exact .inr ⟨hequal, hplace⟩

/-- The first offence in blocks is the first one by pairs unless its block has an offence of an
earlier kind. -/
theorem eq_iff (hreported : IsFirstOffence offence?
      (PairCheck.BeforeInBlocks chunkSize PairCheck.BeforeByCheck) reported failure)
    (hlowest : IsFirstOffence offence? PairCheck.BeforeByPair lowest other) :
    reported = lowest ↔ ∀ place, (offence? place).isSome = true →
      place.state.val / chunkSize = lowest.state.val / chunkSize →
        lowest.check.rank ≤ place.check.rank := by
  have hoffends : ∀ {place}, (offence? place).isSome = true → offence? place ≠ none :=
    fun hsome hnone => by simp [hnone] at hsome
  have hreportedSome : (offence? reported).isSome = true := by rw [hreported.offends]; rfl
  have hlowestSome : (offence? lowest).isSome = true := by rw [hlowest.offends]; rfl
  constructor
  · rintro rfl place hplace hblock
    by_contra hrank
    exact hoffends hplace (hreported.first place (.inr ⟨hblock, .inl (not_le.mp hrank)⟩))
  · intro hranks
    have hnotBefore : ¬ reported.BeforeByPair lowest :=
      fun hbefore => hoffends hreportedSome (hlowest.first reported hbefore)
    have hnotAfter : ¬ lowest.BeforeInBlocks chunkSize PairCheck.BeforeByCheck reported :=
      fun hbefore => hoffends hlowestSome (hreported.first lowest hbefore)
    simp only [PairCheck.BeforeByPair, PairCheck.BeforeInBlocks, PairCheck.BeforeByCheck, not_or,
      not_and, not_lt] at hnotBefore hnotAfter
    obtain ⟨hstate, hpair⟩ := hnotBefore
    obtain ⟨hblock, hkind⟩ := hnotAfter
    have hsameBlock := le_antisymm hblock (Nat.div_le_div_right hstate)
    obtain ⟨hrank, hplace⟩ := hkind hsameBlock.symm
    have hcheck : reported.check = lowest.check :=
      Check.rank_injective (le_antisymm hrank (hranks reported hreportedSome hsameBlock))
    obtain ⟨hstateLe, hcontrolLe⟩ := hplace hcheck.symm
    have hsameState := le_antisymm hstateLe hstate
    have hsameControl :=
      le_antisymm (hcontrolLe hsameState.symm) (hpair hsameState).1
    obtain ⟨state, control, check⟩ := reported
    simp only at hsameState hsameControl hcheck
    rw [hsameState, hsameControl, hcheck]

end IsFirstOffence

/-- The report of a callback by which a solve fails. -/
def SolveError.failure? {β : Type} : Except (SolveError α) β → Option (CallbackFailure α)
  | .error (.evaluation (.callback failure)) => some failure
  | _ => none

theorem SolveError.failure?_eq_some_iff {β : Type} {run : Except (SolveError α) β}
    {failure : CallbackFailure α} :
    SolveError.failure? run = some failure ↔ run = .error (.evaluation (.callback failure)) := by
  constructor
  · intro hfailure
    unfold SolveError.failure? at hfailure
    split at hfailure
    · rw [Option.some.inj hfailure]
    · cases hfailure
  · rintro rfl
    rfl

variable [Number α]

/-- What the checks of two grids report at a time, given the next costs-to-go. -/
def PointResult.offenceAt? (result : PointResult α) (states controls : Grid α)
    (next : Column α states.size) (time : Int) (place : PairCheck states.size controls.size) :
    Option (CallbackFailure α) :=
  result.offence? states next time (states.point place.state) (controls.point place.control)
    place.check

/-- The costs-to-go a number of steps before the end of a horizon, if there is no gap from there
on. -/
def Recursion.costs? (value : Role → (state : α) → (control : Option α) → (time : Int) → Option α)
    (states controls : Grid α) (horizon : Nat) : (steps : Nat) → Option (Vector α states.size)
  | 0 => ends? value states horizon
  | steps + 1 => do
      let next ← costs? value states controls horizon steps
      let choices ← choices? value states controls (next.map some) (horizon - (steps + 1) : Nat)
      return choices.map Choice.cost

/-- A row lies in the block whose number is the row divided by the number of rows of a block. -/
theorem Block.contains_cover_iff {rows chunkSize index row : Nat} (hchunk : 0 < chunkSize)
    (hindex : index < (cover rows chunkSize).length) (hrow : row < rows) :
    (cover rows chunkSize)[index].Contains row ↔ row / chunkSize = index := by
  have hblock : (cover rows chunkSize)[index] =
      ⟨index * chunkSize, min (index * chunkSize + chunkSize) rows⟩ := by
    simp [cover]
  rw [hblock]
  constructor
  · rintro ⟨hfrom, hto⟩
    apply Nat.div_eq_of_lt_le hfrom
    rw [Nat.add_mul, Nat.one_mul]
    exact (Nat.lt_min.mp hto).1
  · rintro rfl
    exact ⟨Nat.div_mul_le_self _ _, Nat.lt_min.mpr ⟨Nat.lt_div_mul_add hchunk, hrow⟩⟩

/-- The points of a block are those of its rows. -/
theorem Grid.getElem_extract (grid : Grid α) {start stop row : Nat}
    (hrow : row < (grid.points.extract start stop).size) :
    ∃ hstate : start + row < grid.size, start + row < stop ∧
      (grid.points.extract start stop)[row] = grid.point ⟨start + row, hstate⟩ := by
  rw [Array.size_extract] at hrow
  exact ⟨by unfold Grid.size; omega, by omega, Array.getElem_extract _⟩

namespace GridProblem

variable {task : GridProblem α} {result : PointResult α} {horizon : Nat}

/-! ### One block -/

/-- Where a block finds its choices, each of its rows has one. -/
theorem exists_choice?_of_chooseRows (hacts : task.problem.ActsAs result)
    {next : Column α task.states.size} {time : Nat} {block : Block}
    (hbounds : block.start < block.stop ∧ block.stop ≤ task.states.size)
    {choices : List (Choice α)} (hrun : task.chooseRows next time block = .ok choices)
    {state : Fin task.states.size} (hcontains : block.Contains state) :
    ∃ choice, Recursion.choice? result.finite? task.states task.controls next time
      (task.states.point state) = some choice := by
  have hchoices := ((chooseRows_agrees hacts next (Nat.lt_succ_self time) hbounds.1
    hbounds.2).ok_iff choices).mp hrun
  cases hchoice : Recursion.choice? result.finite? task.states task.controls next time
      (task.states.point state) with
  | none =>
      rw [mapM_eq_none_of_mem (Table.mem_rowsBetween.mpr hcontains) hchoice] at hchoices
      cases hchoices
  | some choice => exact ⟨choice, rfl⟩

/-- The rows of a block that finds all its choices have no offence. -/
theorem offenceAt?_of_chooseRows (hacts : task.problem.ActsAs result)
    {next : Column α task.states.size} {time : Nat} {block : Block}
    (hbounds : block.start < block.stop ∧ block.stop ≤ task.states.size)
    {choices : List (Choice α)} (hrun : task.chooseRows next time block = .ok choices)
    {place : PairCheck task.states.size task.controls.size}
    (hcontains : block.Contains place.state) :
    result.offenceAt? task.states task.controls next time place = none := by
  obtain ⟨choice, hchoice⟩ := exists_choice?_of_chooseRows hacts hbounds hrun hcontains
  obtain ⟨costs, hcosts, _⟩ := Recursion.choice?_eq_some hchoice
  exact PointResult.offence?_eq_none (hcosts place.control) place.check

/-- A block of states that are worked on one after the other reports its first offence by pairs. -/
theorem chooseRows_eq_error_byPair (hacts : task.problem.ActsAs result)
    (hscalar : task.problem.vectorized = false)
    (hanswers : result.AnswersOn task.states task.controls horizon)
    (hhorizon : IsWritableTime horizon)
    {next : Column α task.states.size} {time : Nat} (htime : time < horizon) {block : Block}
    {error : EvaluationError α} (hfails : task.chooseRows next time block = .error error) :
    block.ReportsFirst (result.offenceAt? task.states task.controls next time)
      PairCheck.BeforeByPair error := by
  rw [chooseRows, if_neg (Bool.eq_false_iff.mp hscalar)] at hfails
  obtain ⟨row, hrow, hfound, hbefore⟩ := mapM_eq_error hfails
  rw [Array.length_toList] at hrow
  obtain ⟨hstate, hstop, hpoint⟩ := task.states.getElem_extract hrow
  rw [Array.getElem_toList, hpoint] at hfound
  obtain ⟨index, check, failure, hoffence, herror, hchecks, hcontrols⟩ :=
    Stage.choose_eq_error hacts hanswers hhorizon htime hscalar (task.states.point_mem _) hfound
  refine ⟨⟨⟨block.start + row, hstate⟩, index, check⟩, failure, ⟨Nat.le_add_right _ _, hstop⟩,
    herror, hoffence, ?_⟩
  rintro ⟨state, control, each⟩ ⟨hfrom, _⟩ hplace
  have hcases : state.val < block.start + row ∨ state = ⟨block.start + row, hstate⟩ ∧
    (control < index ∨ control = index ∧ each.rank < check.rank) := hplace
  rcases hcases with hlt | ⟨rfl, hlt | ⟨rfl, hrank⟩⟩
  · -- an earlier state of the block has found its choice
    obtain ⟨offset, hoffset⟩ := Nat.exists_eq_add_of_le hfrom
    simp only at hoffset
    have hearlier : offset < row := by omega
    obtain ⟨hstateEarlier, _, hpointEarlier⟩ :=
      task.states.getElem_extract (Nat.lt_trans hearlier hrow)
    obtain ⟨choice, hchoice⟩ := hbefore offset hearlier
    rw [Array.getElem_toList, hpointEarlier] at hchoice
    obtain rfl : state = ⟨block.start + offset, hstateEarlier⟩ := Fin.ext hoffset
    obtain ⟨costs, hcosts, _⟩ := Recursion.choice?_eq_some (((Stage.choose_agrees hacts hscalar next
      htime (task.states.point_mem _)).ok_iff choice).mp hchoice)
    exact PointResult.offence?_eq_none (hcosts control) each
  · exact hcontrols control hlt each
  · exact hchecks each hrank

/-- A block that is worked on at once reports its first offence by checks. -/
theorem chooseRows_eq_error_byCheck (hacts : task.problem.ActsAs result)
    (hvectorized : task.problem.vectorized = true)
    (hanswers : result.AnswersOn task.states task.controls horizon)
    (hhorizon : IsWritableTime horizon)
    {next : Column α task.states.size} {time : Nat} (htime : time < horizon) {block : Block}
    (hbounds : block.start < block.stop ∧ block.stop ≤ task.states.size)
    {error : EvaluationError α} (hfails : task.chooseRows next time block = .error error) :
    block.ReportsFirst (result.offenceAt? task.states task.controls next time)
      PairCheck.BeforeByCheck error := by
  have hstop : block.stop ≤ task.states.points.size := hbounds.2
  have hsize : (task.states.points.extract block.start block.stop).size =
      block.stop - block.start := by
    rw [Array.size_extract, Nat.min_eq_left hstop]
  rw [chooseRows, if_pos hvectorized] at hfails
  obtain ⟨position, check, failure, hoffence, herror, hchecks, hbefore⟩ :=
    Stage.chooseBlock_eq_error hacts hanswers hhorizon htime hvectorized (by omega)
      (fun _ hmem => Table.mem_of_mem_extract hmem) hfails
  obtain ⟨hstate, hstop, hpoint⟩ := task.states.getElem_extract (Stage.rowOf position).isLt
  refine ⟨⟨⟨block.start + Stage.rowOf position, hstate⟩, Stage.columnOf position, check⟩, failure,
    ⟨Nat.le_add_right _ _, hstop⟩, herror, ?_, ?_⟩
  · show result.offence? task.states next time (task.states.point _) _ _ = _
    rw [← hpoint]
    exact hoffence
  · rintro ⟨state, control, each⟩ ⟨hfrom, hto⟩ hother
    simp only at hfrom hto
    obtain ⟨offset, hoffset⟩ := Nat.exists_eq_add_of_le hfrom
    have hrow : offset < (task.states.points.extract block.start block.stop).size := by omega
    have hplace : result.offenceAt? task.states task.controls next time ⟨state, control, each⟩ =
        result.offence? task.states next time
          (Stage.stateAt _ (Stage.place ⟨offset, hrow⟩ control))
          (task.controls.point (Stage.columnOf (Stage.place ⟨offset, hrow⟩ control))) each := by
      obtain ⟨hstateOther, _, hpointOther⟩ := task.states.getElem_extract hrow
      obtain rfl : state = ⟨block.start + offset, hstateOther⟩ := Fin.ext hoffset
      simp only [Stage.columnOf_place, Stage.stateAt, Stage.rowOf_place]
      exact congrArg (result.offence? task.states next time · _ _) hpointOther.symm
    rw [hplace]
    rcases hother with hrank | ⟨rfl, hpair⟩
    · exact hchecks each hrank _
    · apply hbefore
      apply Stage.place_lt
      rcases hpair with hlt | ⟨hequal, hlt⟩
      · have hval : state.val < block.start + Stage.rowOf position := hlt
        exact .inl (show offset < _ by omega)
      · have hval : state.val = block.start + Stage.rowOf position := congrArg Fin.val hequal
        exact .inr ⟨Fin.ext (show offset = _ by omega), hlt⟩

/-! ### The blocks of a time -/

/-- The first block that does not find its choices makes the time fail. -/
theorem foldlM_sweepBlock_eq_error (hacts : task.problem.ActsAs result) (time : Fin horizon)
    {table : Table α task.states.size horizon} {next : Column α task.states.size}
    (hnext : table.cost.get time.succ = next) {blocks : List Block}
    (hblocks : ∀ block ∈ blocks, block.start < block.stop ∧ block.stop ≤ task.states.size)
    {error : SolveError α} (hfails : blocks.foldlM (task.sweepBlock time) table = .error error) :
    ∃ (index : Nat) (_ : index < blocks.length) (cause : EvaluationError α),
      task.chooseRows next time blocks[index] = .error cause ∧ error = .evaluation cause ∧
      ∀ (earlier : Nat) (_ : earlier < index), ∃ choices,
        task.chooseRows next time blocks[earlier] = .ok choices := by
  subst hnext
  induction blocks generalizing table with
  | nil => cases hfails
  | cons block rest ih =>
      obtain ⟨hstart, hstop⟩ := hblocks block List.mem_cons_self
      rw [List.foldlM_cons] at hfails
      cases hrows : task.chooseRows (table.cost.get time.succ) time block with
      | error cause =>
          simp only [sweepBlock, hrows, Except.mapError, bind, Except.bind,
            Except.error.injEq] at hfails
          exact ⟨0, Nat.zero_lt_succ _, cause, hrows, hfails.symm,
            fun _ hearlier => absurd hearlier (Nat.not_lt_zero _)⟩
      | ok choices =>
          have hlength := length_of_mapM_eq_some
            (((chooseRows_agrees hacts _ time.isLt hstart hstop).ok_iff choices).mp hrows)
          simp only [sweepBlock, hrows, table.storeStage_eq_storeRows time hlength,
            Except.mapError, bind, Except.bind] at hfails
          obtain ⟨index, hindex, cause, hcause, herror, hbefore⟩ :=
            ih (fun other hother => hblocks other (List.mem_cons_of_mem block hother)) hfails
          rw [Table.get_cost_storeRows_succ] at hcause hbefore
          refine ⟨index + 1, Nat.succ_lt_succ hindex, cause, hcause, herror, ?_⟩
          intro earlier hearlier
          cases earlier with
          | zero => exact ⟨choices, hrows⟩
          | succ earlier => exact hbefore earlier (Nat.lt_of_succ_lt_succ hearlier)

/-- A time reports its first offence in the order of the blocks, if each block reports its first
offence in an order of its own. -/
theorem sweepTime_eq_error (hacts : task.problem.ActsAs result) {chunkSize : Nat}
    (hchunk : 0 < chunkSize) {time : Fin horizon} {table : Table α task.states.size horizon}
    {next : Column α task.states.size} (hnext : table.cost.get time.succ = next)
    {within : PairCheck task.states.size task.controls.size →
      PairCheck task.states.size task.controls.size → Prop}
    (hblock : ∀ {block : Block} {cause : EvaluationError α},
      block.start < block.stop ∧ block.stop ≤ task.states.size →
      task.chooseRows next time block = .error cause →
      block.ReportsFirst (result.offenceAt? task.states task.controls next time) within cause)
    {error : SolveError α}
    (hfails : task.sweepTime chunkSize .sequential time table = .error error) :
    ∃ place failure, error = .evaluation (.callback failure) ∧
      IsFirstOffence (result.offenceAt? task.states task.controls next time)
        (PairCheck.BeforeInBlocks chunkSize within) place failure := by
  have hbounds : ∀ block ∈ Block.cover task.states.size chunkSize,
      block.start < block.stop ∧ block.stop ≤ task.states.size :=
    fun block hmem => Block.bounds_of_mem_cover hchunk hmem
  obtain ⟨index, hindex, cause, hcause, rfl, hbefore⟩ :=
    foldlM_sweepBlock_eq_error hacts time hnext hbounds hfails
  obtain ⟨place, failure, hcontains, rfl, hoffence, hwithin⟩ :=
    hblock (hbounds _ (List.getElem_mem hindex)) hcause
  rw [Block.contains_cover_iff hchunk hindex place.state.isLt] at hcontains
  refine ⟨place, failure, rfl, hoffence, ?_⟩
  rintro other (hlt | ⟨hequal, hother⟩)
  · have hearlier : other.state.val / chunkSize < index := hcontains ▸ hlt
    have hplace := Nat.lt_trans hearlier hindex
    obtain ⟨choices, hchoices⟩ := hbefore _ hearlier
    exact offenceAt?_of_chooseRows hacts (hbounds _ (List.getElem_mem hplace)) hchoices
      ((Block.contains_cover_iff hchunk hplace other.state.isLt).mpr rfl)
  · exact hwithin other ((Block.contains_cover_iff hchunk hindex other.state.isLt).mpr
      (hequal.trans hcontains)) hother

/-! ### The whole horizon -/

/-- A sweep fails at a time whose next costs are those of the recursion. -/
theorem sweepDown_eq_error (hacts : task.problem.ActsAs result) {chunkSize : Nat}
    (hchunk : 0 < chunkSize) {time : Nat} {hbound : time ≤ horizon}
    {table : Table α task.states.size horizon} {costs : Vector α task.states.size}
    (hcosts : Recursion.costs? result.finite? task.states task.controls horizon (horizon - time) =
      some costs)
    (hcolumn : table.cost[time] = costs.map some) {error : SolveError α}
    (hfails : task.sweepDown chunkSize .sequential time hbound table = .error error) :
    ∃ (step : Fin horizon) (next : Vector α task.states.size)
      (reached : Table α task.states.size horizon),
      Recursion.costs? result.finite? task.states task.controls horizon
        (horizon - (step.val + 1)) = some next ∧
      reached.cost.get step.succ = next.map some ∧
      task.sweepTime chunkSize .sequential step reached = .error error := by
  induction time generalizing table costs with
  | zero => cases hfails
  | succ time ih =>
      have hnext : table.cost.get (Fin.succ ⟨time, hbound⟩) = costs.map some := hcolumn
      rw [sweepDown] at hfails
      cases hstep : task.sweepTime chunkSize .sequential ⟨time, hbound⟩ table with
      | error found =>
          rw [hstep] at hfails
          obtain rfl := Except.error.inj hfails
          exact ⟨⟨time, hbound⟩, costs, table, hcosts, hnext, hstep⟩
      | ok stored =>
          rw [hstep] at hfails
          obtain ⟨choices, hchoices, rfl⟩ := Option.map_eq_some_iff.mp
            (((sweepTime_agrees hacts hchunk Schedule.sequential_reorders ⟨time, hbound⟩
              table).ok_iff stored).mp hstep)
          rw [hnext] at hchoices
          have hsteps : horizon - time = horizon - (time + 1) + 1 := by omega
          have htime : horizon - (horizon - (time + 1) + 1) = time := by omega
          have hlater : Recursion.costs? result.finite? task.states task.controls horizon
              (horizon - time) = some (choices.map Choice.cost) := by
            rw [hsteps, Recursion.costs?, hcosts, htime]
            simp only [Option.bind_eq_bind, Option.bind_some, hchoices]
            rfl
          have hstored : (table.withStage ⟨time, hbound⟩ choices).cost[time] =
              (choices.map Choice.cost).map some := by
            rw [Vector.map_map]
            exact Vector.getElem_set_self _
          exact ih hlater hstored hfails

/-- A solve that a callback stops before the end of the horizon has the costs-to-go from the time
after it on. -/
theorem solve_eq_error (hacts : task.problem.ActsAs result)
    (hanswers : result.AnswersOn task.states task.controls horizon) {execution : Execution}
    {failure : CallbackFailure α}
    (hsolve : task.solve execution horizon = .error (.evaluation (.callback failure)))
    (hstep : failure.time < horizon) :
    ∃ (step : Fin horizon) (next : Vector α task.states.size)
      (reached : Table α task.states.size horizon),
      Recursion.costs? result.finite? task.states task.controls horizon
        (horizon - (step.val + 1)) = some next ∧
      reached.cost.get step.succ = next.map some ∧
      task.sweepTime execution.chunkSize .sequential step reached =
        .error (.evaluation (.callback failure)) := by
  rw [solve] at hsolve
  cases hsize : Table.checkSize task.states.size horizon with
  | error cause =>
      rw [solveScheduled_of_refused hsize] at hsolve
      cases hsolve
  | ok size =>
      have hends := terminalCosts_agrees hacts horizon
      rw [solveScheduled_of_granted hsize] at hsolve
      cases hcosts : Recursion.ends? result.finite? task.states horizon with
      | none =>
          rw [hcosts] at hends
          obtain ⟨cause, hterminal, hadmits⟩ := hends
          obtain ⟨found, rfl, htime⟩ :=
            hadmits (isWritableTime_of_granted hsize (Nat.le_refl horizon)) hanswers
          simp only [hterminal, Except.mapError, bind, Except.bind, Except.error.injEq,
            SolveError.evaluation.injEq, EvaluationError.callback.injEq] at hsolve
          subst hsolve
          omega
      | some costs =>
          rw [hcosts] at hends
          have hterminal : task.terminalCosts horizon = .ok costs.toList := hends
          simp only [hterminal, Table.storeTerminal_blank, Except.mapError, bind,
            Except.bind] at hsolve
          cases hsweep : task.sweepDown execution.chunkSize .sequential horizon
              (Nat.le_refl horizon) (Table.blank.withEnds costs) with
          | ok table =>
              simp only [hsweep] at hsolve
              split at hsolve <;> cases hsolve
          | error error =>
              simp only [hsweep, Except.error.injEq] at hsolve
              subst hsolve
              apply sweepDown_eq_error hacts execution.chunkSize_pos _ _ hsweep
              · exact costs
              · rw [Nat.sub_self, Recursion.costs?, hcosts]
              · exact Vector.getElem_set_self _

/-- A callback stops both modes at once or neither of them. -/
theorem exists_failure_in_other_mode {pointwise blockwise : Problem α} {states controls : Grid α}
    (hpoints : pointwise.ActsAs result) (hblocks : blockwise.ActsAs result)
    (hanswers : result.AnswersOn states controls horizon) (first second : Execution)
    {failure : CallbackFailure α} (hsolve : solve ⟨blockwise, states, controls⟩ first horizon =
      .error (.evaluation (.callback failure))) :
    ∃ other : CallbackFailure α, solve ⟨pointwise, states, controls⟩ second horizon =
      .error (.evaluation (.callback other)) ∧ other.time = failure.time := by
  cases hsize : Table.checkSize states.size horizon with
  | error cause =>
      rw [solve, solveScheduled_of_refused hsize] at hsolve
      cases hsolve
  | ok size =>
      have hblock := @solveScheduled_follows _ _ ⟨blockwise, states, controls⟩ result horizon
        hblocks _ first.chunkSize_pos _ Schedule.sequential_reorders _ hsize
      have hpoint := @solveScheduled_follows _ _ ⟨pointwise, states, controls⟩ result horizon
        hpoints _ second.chunkSize_pos _ Schedule.sequential_reorders _ hsize
      rw [solve] at hsolve
      cases hrecursion : Recursion.solve result.finite? states controls horizon with
      | ok table =>
          simp only [hrecursion, hsolve] at hblock
          split at hblock <;> cases hblock
      | error time =>
          simp only [hrecursion] at hblock hpoint
          obtain ⟨error, hrun, cause, rfl, hadmits⟩ := hblock
          have hhorizon := isWritableTime_of_granted hsize (Nat.le_refl horizon)
          obtain ⟨found, rfl, htime⟩ := hadmits hhorizon hanswers
          rw [hsolve, Except.error.injEq, SolveError.evaluation.injEq,
            EvaluationError.callback.injEq] at hrun
          subst hrun
          obtain ⟨error, hother, cause, rfl, hadmits⟩ := hpoint
          obtain ⟨other, rfl, hotherTime⟩ := hadmits hhorizon hanswers
          exact ⟨other, hother, hotherTime.trans htime.symm⟩

/-- When a callback stops a problem that is evaluated in blocks before the end of the horizon, the
report is the first offence of that time in the order of blocks, checks, states and controls.
Evaluated point by point, the problem is stopped at that time too, and the report is the first
offence in the order of states, controls and checks.  The two are the same offence exactly when no
pair in the block of the latter offends at an earlier kind of check. -/
theorem solve_reports_first_offence {pointwise blockwise : Problem α} {states controls : Grid α}
    (hpointwise : pointwise.vectorized = false) (hblockwise : blockwise.vectorized = true)
    (hpoints : pointwise.ActsAs result) (hblocks : blockwise.ActsAs result)
    (hanswers : result.AnswersOn states controls horizon) (first second : Execution)
    {failure : CallbackFailure α} (hsolve : solve ⟨blockwise, states, controls⟩ first horizon =
      .error (.evaluation (.callback failure)))
    (hstep : failure.time < horizon) :
    ∃ (time : Fin horizon) (next : Vector α states.size)
      (reported lowest : PairCheck states.size controls.size) (other : CallbackFailure α),
      failure.time = time.val ∧
      Recursion.costs? result.finite? states controls horizon (horizon - (time.val + 1)) =
        some next ∧
      IsFirstOffence (result.offenceAt? states controls (next.map some) time)
        (PairCheck.BeforeInBlocks first.chunkSize PairCheck.BeforeByCheck) reported failure ∧
      solve ⟨pointwise, states, controls⟩ second horizon =
        .error (.evaluation (.callback other)) ∧
      IsFirstOffence (result.offenceAt? states controls (next.map some) time)
        PairCheck.BeforeByPair lowest other ∧
      (reported = lowest → failure = other) ∧
      (reported = lowest ↔ ∀ place,
        (result.offenceAt? states controls (next.map some) time place).isSome = true →
          place.state.val / first.chunkSize = lowest.state.val / first.chunkSize →
            lowest.check.rank ≤ place.check.rank) := by
  have hhorizon := isWritableTime_of_solve hsolve
  obtain ⟨other, hother, htimes⟩ :=
    exists_failure_in_other_mode hpoints hblocks hanswers first second hsolve
  obtain ⟨time, next, table, hnext, hcolumn, hsweep⟩ :=
    @solve_eq_error _ _ ⟨blockwise, states, controls⟩ result horizon hblocks hanswers _ _ hsolve
      hstep
  obtain ⟨otherTime, otherNext, otherTable, hotherNext, hotherColumn, hotherSweep⟩ :=
    @solve_eq_error _ _ ⟨pointwise, states, controls⟩ result horizon hpoints hanswers _ _ hother
      (htimes ▸ hstep)
  obtain ⟨reported, found, hfound, hreported⟩ := @sweepTime_eq_error _ _
    ⟨blockwise, states, controls⟩ result horizon hblocks _ first.chunkSize_pos _ _ _ hcolumn _
    (fun hbounds hrows => chooseRows_eq_error_byCheck hblocks hblockwise hanswers hhorizon time.isLt
      hbounds hrows) _ hsweep
  obtain ⟨lowest, otherFound, hotherFound, hlowest⟩ := @sweepTime_eq_error _ _
    ⟨pointwise, states, controls⟩ result horizon hpoints _ second.chunkSize_pos _ _ _ hotherColumn _
    (fun _ hrows => chooseRows_eq_error_byPair hpoints hpointwise hanswers hhorizon otherTime.isLt
      hrows) _ hotherSweep
  rw [SolveError.evaluation.injEq, EvaluationError.callback.injEq] at hfound hotherFound
  subst hfound hotherFound
  have htime := PointResult.time_of_offence? hreported.offends
  have hotherTime := PointResult.time_of_offence? hlowest.offends
  obtain rfl : otherTime = time := Fin.ext (by omega)
  obtain rfl : otherNext = next := Option.some.inj (hotherNext.symm.trans hnext)
  refine ⟨otherTime, otherNext, reported, lowest, other, htime, hnext, hreported, hother,
    hlowest.byPair, ?_, hreported.eq_iff hlowest.byPair⟩
  rintro rfl
  exact Option.some.inj (hreported.offends.symm.trans hlowest.offends)

/-- From every state the highest control has no successor, and the lowest one no stage cost. -/
def poles (vectorized : Bool) : Problem Float :=
  Problem.ofFunctions "FunctionProblem" vectorized
    (fun _ state control => state / (Number.ofInt 1 - control))
    (fun _ _ control => Number.ofInt 1 / (Number.ofInt 1 + control)) (fun _ state => state)

theorem exists_poles_actsAs :
    ∃ result : PointResult Float, (∀ vectorized, (poles vectorized).ActsAs result) ∧
      result.AlwaysAnswers :=
  ⟨_, fun vectorized => Problem.ofFunctions_actsAs _ vectorized _ _ _,
    Problem.functionResult_alwaysAnswers _ _ _⟩

/-- In one block the missing successor is reported, point by point the missing stage cost. -/
theorem exists_poles_failure (vectorized : Bool) :
    ∃ failure : CallbackFailure Float,
      solve ⟨poles vectorized, Tracking.grid, Tracking.grid⟩ .standard 1 =
        .error (.evaluation (.callback failure)) ∧
      failure.time = 0 ∧ failure.role = (if vectorized then .dynamics else .stageCost) ∧
      failure.control = some (Number.ofInt (if vectorized then 1 else -1)) := by
  have hreport : ∀ vectorized,
      (SolveError.failure? (solve ⟨poles vectorized, Tracking.grid, Tracking.grid⟩ .standard 1)).any
        (fun failure => decide (failure.time = 0 ∧
          failure.role = (if vectorized then .dynamics else .stageCost) ∧
          failure.control = some (Number.ofInt (if vectorized then 1 else -1)))) = true := by
    decide +kernel
  obtain ⟨failure, hfailure, hmatch⟩ := (Option.any_eq_true _ _).mp (hreport vectorized)
  exact ⟨failure, SolveError.failure?_eq_some_iff.mp hfailure, of_decide_eq_true hmatch⟩

/-- The offence that is reported in blocks is not the first one by pairs. -/
theorem exists_reports_differ :
    ∃ result : PointResult Float, (poles false).ActsAs result ∧ (poles true).ActsAs result ∧
      result.AlwaysAnswers ∧ ∃ failure other : CallbackFailure Float,
        solve ⟨poles true, Tracking.grid, Tracking.grid⟩ .standard 1 =
          .error (.evaluation (.callback failure)) ∧
        solve ⟨poles false, Tracking.grid, Tracking.grid⟩ .standard 1 =
          .error (.evaluation (.callback other)) ∧
        failure.role ≠ other.role ∧ failure.control ≠ other.control := by
  obtain ⟨failure, hfailure, _, hrole, hcontrol⟩ := exists_poles_failure true
  obtain ⟨other, hother, _, hotherRole, hotherControl⟩ := exists_poles_failure false
  obtain ⟨result, hacts, hanswers⟩ := exists_poles_actsAs
  refine ⟨result, hacts false, hacts true, hanswers, failure, other, hfailure, hother, ?_, ?_⟩
  · rw [hrole, hotherRole]
    decide
  · rw [hcontrol, hotherControl]
    decide +kernel

/-- Both reports are first offences, each in the order of its mode. -/
theorem poles_reports_first_offence :
    ∃ (failure other : CallbackFailure Float) (offence? : PairCheck 3 3 →
        Option (CallbackFailure Float)) (reported lowest : PairCheck 3 3),
      solve ⟨poles true, Tracking.grid, Tracking.grid⟩ .standard 1 =
        .error (.evaluation (.callback failure)) ∧
      IsFirstOffence offence? (PairCheck.BeforeInBlocks 256 PairCheck.BeforeByCheck) reported
        failure ∧
      solve ⟨poles false, Tracking.grid, Tracking.grid⟩ .standard 1 =
        .error (.evaluation (.callback other)) ∧
      IsFirstOffence offence? PairCheck.BeforeByPair lowest other ∧ reported ≠ lowest := by
  obtain ⟨result, hacts, hanswers⟩ := exists_poles_actsAs
  obtain ⟨failure, hfailure, htime, hrole, _⟩ := exists_poles_failure true
  obtain ⟨time, next, reported, lowest, other, _, _, hreported, hother, hlowest, hsame, _⟩ :=
    solve_reports_first_offence rfl rfl (hacts false) (hacts true) (hanswers.answersOn _ _ _)
      .standard .standard hfailure (by omega)
  refine ⟨failure, other, _, reported, lowest, hfailure, hreported, hother, hlowest, ?_⟩
  intro hequal
  obtain ⟨found, hfound, _, hotherRole, _⟩ := exists_poles_failure false
  rw [hother, Except.error.injEq, SolveError.evaluation.injEq,
    EvaluationError.callback.injEq] at hfound
  rw [← hfound, ← hsame hequal, hrole] at hotherRole
  exact absurd hotherRole (by decide)

end GridProblem

end BellmanGrid
