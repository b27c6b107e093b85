import BellmanGrid.Sweep.Solve

/-!
The rows of blocks, and what writing them does to a table.

The blocks of a cover have rows, reach no further than the table and together contain every row.
What is stored in a row depends on the row alone, so a table that has been written block by block
shows which rows were written, but not in which order.
-/

namespace BellmanGrid

namespace Block

theorem bounds_of_mem_cover {rows chunkSize : Nat} (hchunk : 0 < chunkSize) {block : Block}
    (hblock : block ∈ cover rows chunkSize) : block.start < block.stop ∧ block.stop ≤ rows := by
  obtain ⟨index, hindex, rfl⟩ := List.mem_map.mp hblock
  have hlast : (index + 1) * chunkSize ≤ rows + chunkSize - 1 :=
    (Nat.le_div_iff_mul_le hchunk).mp (List.mem_range.mp hindex)
  rw [Nat.add_mul, Nat.one_mul] at hlast
  constructor
  · show index * chunkSize < min (index * chunkSize + chunkSize) rows
    omega
  · exact Nat.min_le_right _ _

/-- Every row lies in a block of the cover. -/
theorem exists_mem_cover {rows chunkSize row : Nat} (hchunk : 0 < chunkSize) (hrow : row < rows) :
    ∃ block ∈ cover rows chunkSize, block.Contains row := by
  have hstart : row / chunkSize * chunkSize ≤ row := Nat.div_mul_le_self _ _
  have hstop : row < row / chunkSize * chunkSize + chunkSize := Nat.lt_div_mul_add hchunk
  refine ⟨_, List.mem_map.mpr ⟨row / chunkSize, ?_, rfl⟩, hstart, Nat.lt_min.mpr ⟨hstop, hrow⟩⟩
  rw [List.mem_range, Nat.lt_iff_add_one_le, Nat.le_div_iff_mul_le hchunk, Nat.add_mul, Nat.one_mul]
  omega

end Block

namespace Table

variable {α : Type} {states horizon : Nat}

/-! ### Writing rows -/

@[simp]
theorem mem_rowsBetween {start stop : Nat} {row : Fin states} :
    row ∈ rowsBetween states start stop ↔ start ≤ row.val ∧ row.val < stop := by
  simp only [rowsBetween, List.mem_filterMap, List.mem_range]
  constructor
  · rintro ⟨offset, hoffset, hrow⟩
    split at hrow
    · obtain rfl := Option.some.inj hrow
      simp only
      omega
    · cases hrow
  · rintro ⟨hstart, hstop⟩
    refine ⟨row.val - start, by omega, ?_⟩
    rw [dif_pos (by omega : start + (row.val - start) < states)]
    congr 1
    apply Fin.ext
    simp only
    omega

theorem filterMap_range_getElem? (items : List α) (count : Nat) :
    ((List.range count).filterMap fun index => items[index]?) = items.take count := by
  induction count with
  | zero => rfl
  | succ count ih =>
      rw [List.range_succ, List.filterMap_append, ih, List.take_add_one]
      cases hitem : items[count]? with
      | none => simp only [List.filterMap_cons, hitem, List.filterMap_nil, Option.toList]
      | some item => simp only [List.filterMap_cons, hitem, List.filterMap_nil, Option.toList]

theorem mem_of_mem_extract {entries : Array α} {start stop : Nat} {entry : α}
    (hmem : entry ∈ entries.extract start stop) : entry ∈ entries := by
  rw [← Array.mem_toList_iff, Array.toList_extract] at hmem
  exact Array.mem_toList_iff.mp (List.mem_of_mem_drop (List.mem_of_mem_take hmem))

/-- The points of a block are the points of its rows. -/
theorem map_rowsBetween (points : Array α) (start stop : Nat) :
    (rowsBetween points.size start stop).map (fun row => points[row]) =
      (points.extract start stop).toList := by
  have hread : (rowsBetween points.size start stop).map (fun row => points[row]) =
      (List.range (stop - start)).filterMap fun offset => (points.toList.drop start)[offset]? := by
    rw [rowsBetween, List.map_filterMap]
    congr 1
    funext offset
    by_cases hrow : start + offset < points.size <;> simp [hrow]
  rw [hread, filterMap_range_getElem?, Array.toList_extract]

theorem length_rowsBetween (points : Array α) (start stop : Nat) :
    (rowsBetween points.size start stop).length = (points.extract start stop).size := by
  have hpoints := congrArg List.length (map_rowsBetween points start stop)
  rwa [List.length_map, Array.length_toList] at hpoints

theorem get_writeRows_of_not_mem (column : Vector (Option α) states) {rows : List (Fin states)}
    (numbers : List α) {row : Fin states} (hrow : row ∉ rows) :
    (writeRows column rows numbers).get row = column.get row := by
  induction rows generalizing column numbers with
  | nil => rfl
  | cons first rest ih =>
      obtain ⟨hfirst, hrest⟩ := List.ne_and_not_mem_of_not_mem_cons hrow
      have hne : first.val ≠ row.val := fun hequal => hfirst (Fin.ext hequal.symm)
      cases numbers with
      | nil => rfl
      | cons number later =>
          rw [writeRows, ih _ _ hrest]
          exact Vector.getElem_set_ne first.isLt row.isLt hne

/-- A row that is written belongs to one of the items, whichever entry of them is written. -/
theorem exists_get_writeRows_map {β : Type} {rows : List (Fin states)} {items : List β}
    (hlength : items.length = rows.length) {row : Fin states} (hrow : row ∈ rows) :
    ∃ item ∈ items, ∀ (column : Vector (Option α) states) (entry : β → α),
      (writeRows column rows (items.map entry)).get row = some (entry item) := by
  induction rows generalizing items with
  | nil => exact absurd hrow List.not_mem_nil
  | cons first rest ih =>
      cases items with
      | nil => cases hlength
      | cons item later =>
          by_cases hrest : row ∈ rest
          · obtain ⟨found, hfound, hwritten⟩ := ih (Nat.succ.inj hlength) hrest
            exact ⟨found, List.mem_cons_of_mem item hfound, fun column entry => hwritten _ entry⟩
          · obtain rfl : row = first := (List.mem_cons.mp hrow).resolve_right hrest
            refine ⟨item, List.mem_cons_self, fun column entry => ?_⟩
            rw [List.map_cons, writeRows, get_writeRows_of_not_mem _ _ hrest]
            exact Vector.getElem_set_self row.isLt

/-- A row that is written holds its entry, whatever else is written after it. -/
theorem get_writeRows_of_mem (column : Vector (Option α) states) {rows : List (Fin states)}
    (entry : Fin states → α) {row : Fin states} (hrow : row ∈ rows) :
    (writeRows column rows (rows.map entry)).get row = some (entry row) := by
  induction rows generalizing column with
  | nil => exact absurd hrow List.not_mem_nil
  | cons first rest ih =>
      rw [List.map_cons, writeRows]
      by_cases hrest : row ∈ rest
      · exact ih _ hrest
      · obtain rfl : row = first := (List.mem_cons.mp hrow).resolve_right hrest
        rw [get_writeRows_of_not_mem _ _ hrest]
        exact Vector.getElem_set_self row.isLt

theorem writeRows_append (column : Vector (Option α) states) (first second : List (Fin states))
    (entry : Fin states → α) :
    writeRows (writeRows column first (first.map entry)) second (second.map entry) =
      writeRows column (first ++ second) ((first ++ second).map entry) := by
  induction first generalizing column with
  | nil => rfl
  | cons row rest ih =>
      rw [List.cons_append, List.map_cons, List.map_cons, writeRows, writeRows]
      exact ih (column.set row (some (entry row)))

/-- The table after choices have been stored in rows of one time. -/
def storeRows (table : Table α states horizon) (time : Fin horizon) (rows : List (Fin states))
    (choices : List (Choice α)) : Table α states horizon :=
  table.withColumns time (writeRows (table.cost.get time.castSucc) rows (choices.map Choice.cost))
    (writeRows (table.policy.get time) rows (choices.map Choice.control))

theorem storeStage_eq_storeRows (table : Table α states horizon) (time : Fin horizon)
    {start stop : Nat} {choices : List (Choice α)}
    (hlength : choices.length = (rowsBetween states start stop).length) :
    table.storeStage time start stop (choices.map Choice.cost) (choices.map Choice.control) =
      .ok (table.storeRows time (rowsBetween states start stop) choices) := by
  simp [storeStage, storeRows, hlength]

theorem storeRows_nil (table : Table α states horizon) (time : Fin horizon) :
    table.storeRows time [] [] = table := by
  simp [storeRows, writeRows, withColumns_self]

theorem get_cost_storeRows_succ (table : Table α states horizon) (time : Fin horizon)
    (rows : List (Fin states)) (choices : List (Choice α)) :
    (table.storeRows time rows choices).cost.get time.succ = table.cost.get time.succ :=
  table.get_cost_withColumns_succ time _ _

theorem storeRows_storeRows (table : Table α states horizon) (time : Fin horizon)
    (first second : List (Fin states)) (choice : Fin states → Choice α) :
    (table.storeRows time first (first.map choice)).storeRows time second (second.map choice) =
      table.storeRows time (first ++ second) ((first ++ second).map choice) := by
  simp only [storeRows, List.map_map, get_cost_withColumns, get_policy_withColumns,
    withColumns_withColumns, writeRows_append]

end Table

end BellmanGrid
