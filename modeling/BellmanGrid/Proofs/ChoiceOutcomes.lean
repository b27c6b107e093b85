import BellmanGrid.Proofs.BlockWrites
import BellmanGrid.Proofs.EvaluationOutcomes
import BellmanGrid.Proofs.Recursion

/-!
What working on the states of a block can end with.

Every state gets a choice with a finite cost and a control of the grid.  Otherwise a callback fails
at a point of the grids, or hands back a value there that escapes the checks, or raises an exception
there that cannot be written.
-/

namespace BellmanGrid

variable {α : Type}

namespace Tensor

variable {tensor : Tensor α} {shape : List Nat} {position : Nat} {entry : α}

theorem mem_data_of_entryAt? (hentry : tensor.entryAt? shape position = some entry) :
    entry ∈ tensor.data := by
  obtain ⟨_, hposition⟩ := Array.getElem?_eq_some_iff.mp hentry
  exact Array.mem_of_getElem hposition

end Tensor

variable [Number α]

/-- A choice that a table may hold: a finite cost and a control of the grid. -/
structure Choice.IsFrom (controls : Grid α) (choice : Choice α) : Prop where
  finite : Number.isFinite choice.cost = true
  control : choice.control ∈ controls.points

/-- A search gives one of the candidates or fails as one of them does. -/
theorem Choice.search_ensures {ε : Type} {count : Nat} (hcount : 0 < count)
    {candidate : Fin count → Except ε (Choice α)} {good : Choice α → Prop} {admitted : ε → Prop}
    (hcandidate : ∀ index, Ensures good admitted (candidate index)) :
    Ensures good admitted (Choice.search hcount candidate) := by
  have hsearch : ∀ start best, good best →
      Ensures good admitted (Choice.searchFrom candidate start best) := by
    intro start best hbest
    fun_induction Choice.searchFrom candidate start best with
    | case1 start best hstart found hfound ih =>
        apply ih
        rw [Choice.keep]
        split
        · exact (hcandidate _).good_of_ok hfound
        · exact hbest
    | case2 start best hstart error herror => exact (hcandidate _).admitted_of_error herror
    | case3 start best hstart => exact hbest
  exact (hcandidate ⟨0, hcount⟩).bind (hsearch 1)

namespace GridProblem

/-- How working on a task may fail at a time: a callback fails at a point of the grids, or its reply
ends the evaluation with an error of its own, at a point or on a block of the grids.  At a time that
has no text nothing can be reported. -/
inductive FailsAt (task : GridProblem α) (time : Int) : (error : EvaluationError α) → Prop
  | callback (htime : IsWritableTime time) {role : Role} {state : α} {control : Option α}
      (hstate : state ∈ task.states.points)
      (hcontrol : ∀ found ∈ control, found ∈ task.controls.points) (reason : Reason α) :
      FailsAt task time (.callback ⟨role, state, control, time, reason⟩)
  | point {role : Role} {state : α} {control : Option α} {error : EvaluationError α}
      (hscalar : task.problem.vectorized = false) (hstate : state ∈ task.states.points)
      (hcontrol : ∀ found ∈ control, found ∈ task.controls.points)
      (hescapes :
        (task.problem.callAt role state control time).Escapes Value.EscapesAtPoint error) :
      FailsAt task time error
  | block {role : Role} {states : Tensor α} {controls : Option (Tensor α)}
      {error : EvaluationError α} (hvectorized : task.problem.vectorized = true)
      (hstates : ∀ state ∈ states.data, state ∈ task.states.points)
      (hcontrols : ∀ found ∈ controls, found.data = task.controls.points)
      (hescapes :
        (task.problem.callOnBlock role states controls time).Escapes Value.EscapesOnBlock error) :
      FailsAt task time error
  | unwritable (htime : ¬ IsWritableTime time) : FailsAt task time (.uncaught (.entry .unwritable))

variable {task : GridProblem α} {time : Int}

theorem failsAt_of_point (hscalar : task.problem.vectorized = false) {role : Role} {state : α}
    {control : Option α} (hstate : state ∈ task.states.points)
    (hcontrol : ∀ found ∈ control, found ∈ task.controls.points) {error : EvaluationError α}
    (hfails : task.problem.FailsAt role state control time error) : task.FailsAt time error := by
  cases hfails with
  | callback htime reason => exact .callback htime hstate hcontrol reason
  | escape hescapes => exact .point hscalar hstate hcontrol hescapes
  | unwritable htime => exact .unwritable htime

theorem failsAt_of_block (hvectorized : task.problem.vectorized = true) {role : Role}
    {states : Tensor α} {controls : Option (Tensor α)} {shape : List Nat}
    (hstates : ∀ state ∈ states.data, state ∈ task.states.points)
    (hcontrols : ∀ found ∈ controls, found.data = task.controls.points)
    (hfits : states.fits shape = true) (hfitsControls : controls.any (!·.fits shape) = false)
    (hpoints : 0 < extent shape) {error : EvaluationError α}
    (hfails : task.problem.FailsOnBlock role states controls time shape error) :
    task.FailsAt time error := by
  cases hfails with
  | misfit hmisfit => simp [hfits, hfitsControls] at hmisfit
  | callback htime hposition hstate reason =>
      refine .callback htime (hstates _ (Tensor.mem_data_of_entryAt? hstate)) ?_ reason
      intro found hfound
      obtain ⟨given, hgiven, hentry⟩ := Option.bind_eq_some_iff.mp hfound
      rw [← hcontrols given hgiven]
      exact Tensor.mem_data_of_entryAt? hentry
  | noPoint hempty => exact absurd hempty (Nat.ne_of_gt hpoints)
  | escape hescapes => exact .block hvectorized hstates hcontrols hescapes
  | unwritable htime => exact .unwritable htime

/-! ### Point by point -/

theorem sumAt_ensures {state control : α} (hstate : state ∈ task.states.points)
    (hcontrol : control ∈ task.controls.points) (stage : α) (next : Option α) :
    Ensures (fun cost => Number.isFinite cost = true) (task.FailsAt time)
      (Stage.sumAt state control time stage next) := by
  rw [Stage.sumAt]
  split
  · next cost hsum =>
      obtain ⟨_, _, _, hfinite⟩ := Recursion.sum?_eq_some_iff.mp hsum
      exact hfinite
  · by_cases htime : IsWritableTime time
    · rw [CallbackFailure.report_eq_callback htime]
      refine .callback htime hstate ?_ _
      rintro _ ⟨⟩
      exact hcontrol
    · rw [CallbackFailure.report_eq_uncaught htime]
      exact .unwritable htime

variable [LawfulConversion α]

theorem evaluate_ensures (hscalar : task.problem.vectorized = false) (role : Role) {state : α}
    {control : Option α} (hstate : state ∈ task.states.points)
    (hcontrol : ∀ found ∈ control, found ∈ task.controls.points) :
    Ensures (fun number => Number.isFinite number = true) (task.FailsAt time)
      (task.problem.evaluate role state control time) :=
  (task.problem.evaluate_ensures role state control time).mono (fun _ hfinite => hfinite)
    fun _ hfails => failsAt_of_point hscalar hstate hcontrol hfails

theorem choose_ensures (hscalar : task.problem.vectorized = false)
    (next : Column α task.states.size) {state : α} (hstate : state ∈ task.states.points) :
    Ensures (Choice.IsFrom task.controls) (task.FailsAt time)
      (Stage.choose task.problem task.states task.controls next time state) := by
  apply Choice.search_ensures
  intro index
  have hcontrol : task.controls.point index ∈ task.controls.points := Array.getElem_mem index.isLt
  have hgiven : ∀ found ∈ some (task.controls.point index), found ∈ task.controls.points := by
    rintro _ ⟨⟩
    exact hcontrol
  apply (evaluate_ensures hscalar .dynamics hstate hgiven).bind
  intro successor _
  apply (evaluate_ensures hscalar .stageCost hstate hgiven).bind
  intro stage _
  apply (sumAt_ensures hstate hcontrol stage _).bind
  intro cost hfinite
  exact ⟨hfinite, hcontrol⟩

/-! ### In blocks -/

theorem evaluatePairs_ensures (hvectorized : task.problem.vectorized = true) (role : Role)
    {block : Array α} (hblock : 0 < block.size)
    (hstates : ∀ state ∈ block, state ∈ task.states.points) :
    Ensures (fun _ => True) (task.FailsAt time)
      (task.problem.evaluateBlock role (Tensor.column block)
        (some (Tensor.flatRow task.controls.points)) time [block.size, task.controls.size]) := by
  apply (task.problem.evaluateBlock_ensures role _ _ time _).mono (fun _ _ => trivial)
  intro error hfails
  refine failsAt_of_block hvectorized hstates ?_ ?_ ?_ ?_ hfails
  · rintro _ ⟨⟩
    rfl
  · exact Tensor.fits_column block task.controls.size
  · simp [Tensor.fits_flatRow block.size task.controls.points, Grid.size]
  · simpa [extent] using ⟨hblock, task.controls.size_pos⟩

theorem chooseBlock_ensures (hvectorized : task.problem.vectorized = true)
    (next : Column α task.states.size) {block : Array α} (hblock : 0 < block.size)
    (hstates : ∀ state ∈ block, state ∈ task.states.points) :
    Ensures (fun choices : List (Choice α) => choices.length = block.size ∧
        ∀ choice ∈ choices, choice.IsFrom task.controls) (task.FailsAt time)
      (Stage.chooseBlock task.problem task.states task.controls next time block) := by
  apply (evaluatePairs_ensures hvectorized .dynamics hblock hstates).bind
  intro successors _
  apply (evaluatePairs_ensures hvectorized .stageCost hblock hstates).bind
  intro stages _
  have hsums : Ensures (fun sums : Vector α (extent [block.size, task.controls.size]) =>
        ∀ position, Number.isFinite (sums.get position) = true) (task.FailsAt time)
      (Stage.blockSums task.states task.controls next time block successors stages) := by
    exact Ensures.ofFnM fun position =>
      sumAt_ensures (hstates _ (Array.getElem_mem _)) (Array.getElem_mem _) _ _
  apply hsums.bind
  intro sums hfinite
  constructor
  · rw [List.length_map, List.length_finRange]
  · intro choice hchoice
    obtain ⟨row, _, rfl⟩ := List.mem_map.mp hchoice
    exact ⟨hfinite _, Array.getElem_mem _⟩

/-! ### Both modes -/

theorem chooseRows_ensures (next : Column α task.states.size) (time : Nat) {block : Block}
    (hstart : block.start < block.stop) (hstop : block.stop ≤ task.states.size) :
    Ensures (fun choices : List (Choice α) =>
        choices.length = (Table.rowsBetween task.states.size block.start block.stop).length ∧
        ∀ choice ∈ choices, choice.IsFrom task.controls) (task.FailsAt time)
      (task.chooseRows next time block) := by
  have hstates : ∀ state ∈ task.states.points.extract block.start block.stop,
      state ∈ task.states.points := fun _ hmem => Table.mem_of_mem_extract hmem
  have hlength : (Table.rowsBetween task.states.size block.start block.stop).length =
      (task.states.points.extract block.start block.stop).size :=
    Table.length_rowsBetween task.states.points block.start block.stop
  rw [hlength, chooseRows]
  split
  · next hvectorized =>
      apply chooseBlock_ensures hvectorized next _ hstates
      have hsize : block.stop ≤ task.states.points.size := hstop
      rw [Array.size_extract]
      omega
  · next hscalar =>
      apply Ensures.mapM
      intro state hmem
      exact choose_ensures (Bool.eq_false_iff.mpr hscalar) next
        (hstates state (Array.mem_toList_iff.mp hmem))

/-- Every state has a finite terminal cost, unless a callback fails at the end of the horizon. -/
theorem terminalCosts_ensures (horizon : Nat) :
    Ensures (fun costs : List α => costs.length = task.states.size ∧
        ∀ cost ∈ costs, Number.isFinite cost = true) (task.FailsAt horizon)
      (task.terminalCosts horizon) := by
  rw [terminalCosts]
  split
  · next hvectorized =>
      have hpoints : 0 < extent [task.states.size] := by
        simpa [extent] using task.states.size_pos
      have hblock := (task.problem.evaluateBlock_ensures .terminalCost
        (Tensor.row task.states.points) none horizon [task.states.size]).mono
          (fun _ hfinite => hfinite) fun error hfails => failsAt_of_block hvectorized
            (fun state hmem => hmem) (fun _ hnone => by cases hnone)
            (Tensor.fits_row task.states.points) rfl hpoints hfails
      apply hblock.map
      intro costs hfinite
      constructor
      · exact Vector.length_toList.trans (Nat.mul_one _)
      · intro cost hmem
        obtain ⟨position, hposition, rfl⟩ := List.mem_iff_getElem.mp hmem
        rw [Vector.getElem_toList]
        exact hfinite ⟨position, by simpa using hposition⟩
  · next hscalar =>
      apply Ensures.mapM
      intro state hmem
      exact evaluate_ensures (Bool.eq_false_iff.mpr hscalar) .terminalCost
        (Array.mem_toList_iff.mp hmem) (fun _ hnone => by cases hnone)

end GridProblem

end BellmanGrid
