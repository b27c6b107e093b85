import BellmanGrid.Proofs.FirstMinimum
import BellmanGrid.Proofs.PointResults
import BellmanGrid.Proofs.Recursion

/-!
One step of the sweep against one step of the recursion.

A state that is worked on by itself and a block that is worked on at once both give the choices of
the recursion, and where the recursion has none both fail.
-/

namespace BellmanGrid

namespace Stage

variable {α : Type}

/-! ### Positions in row-major order -/

variable {rows columns : Nat}

@[simp]
theorem rowOf_place (row : Fin rows) (column : Fin columns) : rowOf (place row column) = row := by
  apply Fin.ext
  show (row.val * columns + column.val) / columns = row.val
  rw [Nat.add_comm, Nat.add_mul_div_right _ _ (Nat.zero_lt_of_lt column.isLt),
    Nat.div_eq_of_lt column.isLt, Nat.zero_add]

@[simp]
theorem columnOf_place (row : Fin rows) (column : Fin columns) :
    columnOf (place row column) = column := by
  apply Fin.ext
  show (row.val * columns + column.val) % columns = column.val
  rw [Nat.add_comm, Nat.add_mul_mod_self_right, Nat.mod_eq_of_lt column.isLt]

@[simp]
theorem place_rowOf_columnOf (position : Fin (extent [rows, columns])) :
    place (rowOf position) (columnOf position) = position :=
  Fin.ext (Nat.div_add_mod' position.val columns)

/-- Positions are in the order of their rows, and of their columns within a row. -/
theorem place_lt {position : Fin (extent [rows, columns])} {row : Fin rows} {column : Fin columns}
    (hbefore : row < rowOf position ∨ row = rowOf position ∧ column < columnOf position) :
    place row column < position := by
  rw [← place_rowOf_columnOf position]
  show row.val * columns + column.val < (rowOf position).val * columns + (columnOf position).val
  rcases hbefore with hrow | ⟨rfl, hcolumn⟩
  · have hnext : (row.val + 1) * columns ≤ (rowOf position).val * columns :=
      Nat.mul_le_mul_right _ hrow
    rw [Nat.add_mul, Nat.one_mul] at hnext
    omega
  · omega

/-- Choosing in every row of a finished block is choosing row by row. -/
theorem map_rows_eq_mapM {β : Type} (entry : Fin rows → Fin columns → Option α)
    (pick : Fin rows → (Fin columns → α) → β) :
    (Vector.ofFnM fun position : Fin (extent [rows, columns]) =>
        entry (rowOf position) (columnOf position)).map (fun entries =>
          (List.finRange rows).map fun row =>
            pick row fun column => entries.get (place row column)) =
      (List.finRange rows).mapM fun row =>
        (Vector.ofFnM (entry row)).map fun entries => pick row entries.get := by
  cases hentries : Vector.ofFnM fun position : Fin (extent [rows, columns]) =>
      entry (rowOf position) (columnOf position) with
  | some entries =>
      have hall := ofFnM_eq_some_iff.mp hentries
      rw [Option.map_some, eq_comm]
      apply mapM_eq_some_map
      intro row _
      have hrow : Vector.ofFnM (entry row) =
          some (Vector.ofFn fun column => entries.get (place row column)) := by
        rw [ofFnM_eq_some_iff]
        intro column
        have hplace := hall (place row column)
        rw [rowOf_place, columnOf_place] at hplace
        rw [hplace, get_ofFn]
      simp only [hrow, Option.map_some, get_ofFn]
  | none =>
      obtain ⟨position, hposition⟩ := ofFnM_eq_none_iff.mp hentries
      rw [Option.map_none, eq_comm]
      apply mapM_eq_none_of_mem (List.mem_finRange (rowOf position))
      rw [ofFnM_eq_none_iff.mpr ⟨columnOf position, hposition⟩, Option.map_none]

/-! ### Choices -/

variable [Number α] {problem : Problem α} {result : PointResult α} {states controls : Grid α}
  {horizon time : Nat}

theorem sumAt_agrees (htime : time < horizon) (state control stage : α) (next : Option α) :
    Agrees (result.Admits states controls horizon time) (sumAt state control time stage next)
      (sum? stage next) := by
  unfold sumAt
  cases sum? stage next with
  | some cost => rfl
  | none =>
      exact Agrees.of_error fun hhorizon _ =>
        CallbackFailure.report_isCallbackAt (hhorizon.of_le (Nat.le_of_lt htime))

/-- A pair worked on by itself gets the cost of the recursion. -/
theorem candidate_agrees (hacts : problem.ActsAs result) (hscalar : problem.vectorized = false)
    (next : Column α states.size) (htime : time < horizon) {state control : α}
    (hstate : state ∈ states.points) (hcontrol : control ∈ controls.points) :
    Agrees (result.Admits states controls horizon time)
      (candidate problem states next time state control)
      ((Recursion.candidate? result.finite? states next time state control).map
        fun cost => ⟨cost, control⟩) := by
  simp only [Recursion.candidate?, Option.bind_eq_bind, Option.map_bind]
  apply (hacts.evaluate_agrees hscalar (.pair rfl hstate hcontrol htime)).bind
  intro successor _
  rw [Function.comp_apply, Option.map_bind]
  apply (hacts.evaluate_agrees hscalar (.pair rfl hstate hcontrol htime)).bind
  intro stage _
  exact (sumAt_agrees htime state control stage _).map _

/-- A state worked on by itself gets the choice of the recursion. -/
theorem choose_agrees (hacts : problem.ActsAs result) (hscalar : problem.vectorized = false)
    (next : Column α states.size) (htime : time < horizon) {state : α}
    (hstate : state ∈ states.points) :
    Agrees (result.Admits states controls horizon time)
      (choose problem states controls next time state)
      (Recursion.choice? result.finite? states controls next time state) := by
  apply Choice.search_agrees
  intro index
  exact candidate_agrees hacts hscalar next htime hstate (controls.point_mem index)

/-- The sums of a block are the costs of the recursion, position by position. -/
theorem blockSums_agrees (hacts : problem.ActsAs result) (hvectorized : problem.vectorized = true)
    (next : Column α states.size) (htime : time < horizon) {block : Array α}
    (hblock : 0 < block.size) (hstates : ∀ state ∈ block, state ∈ states.points) :
    Agrees (result.Admits states controls horizon time)
      (do
        let successors ← problem.evaluateBlock .dynamics (Tensor.column block)
          (some (Tensor.flatRow controls.points)) time [block.size, controls.size]
        let stages ← problem.evaluateBlock .stageCost (Tensor.column block)
          (some (Tensor.flatRow controls.points)) time [block.size, controls.size]
        blockSums states controls next time block successors stages)
      (Vector.ofFnM fun position : Fin (extent [block.size, controls.size]) =>
        Recursion.candidate? result.finite? states next time (stateAt block position)
          (controls.point (columnOf position))) := by
  -- Successors, stage costs and sums are traversals of the same positions, so they are one.
  simp only [Recursion.candidate?, Option.bind_eq_bind]
  rw [← ofFnM_bind_ofFnM _ fun (position : Fin (extent [block.size, controls.size])) successor =>
    (result.finite? .stageCost (stateAt block position)
      (some (controls.point (columnOf position))) time).bind fun stage =>
        sum? stage (next.get (states.nearestIndex successor))]
  apply (hacts.evaluatePairs_agrees hvectorized rfl hblock hstates htime).bind
  intro successors _
  rw [← ofFnM_bind_ofFnM _ fun (position : Fin (extent [block.size, controls.size])) stage =>
    sum? stage (next.get (states.nearestIndex (successors.get position)))]
  apply (hacts.evaluatePairs_agrees hvectorized rfl hblock hstates htime).bind
  intro stages _
  apply Agrees.ofFnM
  intro position
  exact sumAt_agrees htime (stateAt block position) (controls.point (columnOf position)) _ _

/-- A block worked on at once gets the choices of the recursion. -/
theorem chooseBlock_agrees (hacts : problem.ActsAs result)
    (hvectorized : problem.vectorized = true) (next : Column α states.size)
    (htime : time < horizon) {block : Array α} (hblock : 0 < block.size)
    (hstates : ∀ state ∈ block, state ∈ states.points) :
    Agrees (result.Admits states controls horizon time)
      (chooseBlock problem states controls next time block)
      (block.toList.mapM (Recursion.choice? result.finite? states controls next time)) := by
  have hsums : Agrees (result.Admits states controls horizon time) _ _ :=
    blockSums_agrees hacts hvectorized next htime hblock hstates
  simp only [stateAt] at hsums
  have hrows := map_rows_eq_mapM
    (fun (row : Fin block.size) (column : Fin controls.size) =>
      Recursion.candidate? result.finite? states next time block[row] (controls.point column))
    (fun _ (entry : Fin controls.size → α) =>
      let best := firstSmallest controls.size_pos entry
      (⟨entry best, controls.point best⟩ : Choice α))
  have hblockRows : block.toList = (List.finRange block.size).map fun row => block[row] := by
    apply List.ext_getElem <;> simp
  have hchoices := hsums.map fun sums => (List.finRange block.size).map fun row =>
    let best := firstSmallest controls.size_pos fun control =>
      sums.get (place row control)
    (⟨sums.get (place row best), controls.point best⟩ : Choice α)
  rw [hrows] at hchoices
  simp only [bind_assoc] at hchoices
  rw [hblockRows, List.mapM_map]
  exact hchoices

end Stage

end BellmanGrid
