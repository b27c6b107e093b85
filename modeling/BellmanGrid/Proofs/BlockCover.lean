import BellmanGrid.Sweep.Block

/-!
The blocks of a cover as a partition of the rows.

Blocks that follow one another without gaps, each with at least one row, contain every row between
their ends exactly once, and no other row.
-/

namespace BellmanGrid

namespace Block

instance (block : Block) (row : Nat) : Decidable (block.Contains row) :=
  inferInstanceAs (Decidable (block.start ≤ row ∧ row < block.stop))

/-- The blocks follow one another from `start` to `stop`, and each of them has at least one and at
most `longest` rows. -/
def Tile (longest : Nat) : (start : Nat) → (blocks : List Block) → (stop : Nat) → Prop
  | start, [], stop => start = stop
  | start, block :: rest, stop =>
      block.start = start ∧ start < block.stop ∧ block.size ≤ longest ∧
        Tile longest block.stop rest stop

variable {longest start stop row : Nat} {blocks : List Block}

theorem Tile.start_le_stop (htile : Tile longest start blocks stop) : start ≤ stop := by
  induction blocks generalizing start with
  | nil => exact Nat.le_of_eq htile
  | cons block rest ih =>
      obtain ⟨_, hrows, _, hrest⟩ := htile
      exact Nat.le_trans (Nat.le_of_lt hrows) (ih hrest)

/-- A block of a tiling has rows, not too many of them, and none outside. -/
theorem Tile.bounds_of_mem (htile : Tile longest start blocks stop) {block : Block}
    (hblock : block ∈ blocks) :
    start ≤ block.start ∧ block.start < block.stop ∧ block.stop ≤ stop ∧ block.size ≤ longest := by
  induction blocks generalizing start with
  | nil => exact absurd hblock List.not_mem_nil
  | cons first rest ih =>
      obtain ⟨hstart, hrows, hsize, hrest⟩ := htile
      rcases List.mem_cons.mp hblock with rfl | hmem
      · exact ⟨Nat.le_of_eq hstart.symm, hstart ▸ hrows, hrest.start_le_stop, hsize⟩
      · obtain ⟨hlater, hbounds⟩ := ih hrest hmem
        exact ⟨Nat.le_trans (Nat.le_of_lt hrows) hlater, hbounds⟩

/-- Each block ends before the later ones start. -/
theorem Tile.pairwise (htile : Tile longest start blocks stop) :
    blocks.Pairwise fun first second => first.stop ≤ second.start := by
  induction blocks generalizing start with
  | nil => exact List.Pairwise.nil
  | cons block rest ih =>
      obtain ⟨_, _, _, hrest⟩ := htile
      exact List.Pairwise.cons (fun later hlater => (hrest.bounds_of_mem hlater).1) (ih hrest)

/-- The rows from `start` up to but not including `stop` are in one block each. -/
theorem Tile.countP_contains (htile : Tile longest start blocks stop) (hstart : start ≤ row)
    (hstop : row < stop) : blocks.countP (fun block => block.Contains row) = 1 := by
  induction blocks generalizing start with
  | nil => exact absurd htile (Nat.ne_of_lt (Nat.lt_of_le_of_lt hstart hstop))
  | cons block rest ih =>
      obtain ⟨hfirst, hrows, _, hrest⟩ := htile
      rw [List.countP_cons]
      by_cases hrow : row < block.stop
      · have hnone : rest.countP (fun later => later.Contains row) = 0 := by
          rw [List.countP_eq_zero]
          intro later hlater hinside
          have hbeyond := (hrest.bounds_of_mem hlater).1
          have hfrom : later.start ≤ row := (of_decide_eq_true hinside).1
          omega
        have hcontains : block.Contains row := ⟨hfirst ▸ hstart, hrow⟩
        simp [hnone, hcontains]
      · have hcontains : ¬ block.Contains row := fun hinside => hrow hinside.2
        simp [hcontains, ih hrest (Nat.not_lt.mp hrow)]

theorem tile_map_range' {rows chunkSize : Nat} (hchunk : 0 < chunkSize) {first count : Nat}
    (hrows : ∀ index < first + count, index * chunkSize < rows) :
    Tile chunkSize (min (first * chunkSize) rows)
      ((List.range' first count).map fun index =>
        ⟨index * chunkSize, min (index * chunkSize + chunkSize) rows⟩)
      (min ((first + count) * chunkSize) rows) := by
  induction count generalizing first with
  | zero => rfl
  | succ count ih =>
      have hfirst : first * chunkSize < rows := hrows first (by omega)
      have hlater := ih (by rwa [Nat.add_right_comm] : ∀ index < first + 1 + count, _)
      rw [Nat.add_right_comm first 1 count, Nat.add_assoc first, Nat.add_mul first 1,
        Nat.one_mul] at hlater
      rw [List.range'_succ, List.map_cons]
      refine ⟨(Nat.min_eq_left (Nat.le_of_lt hfirst)).symm, ?_, ?_, hlater⟩
      · simp only
        omega
      · simp only [size]
        omega

/-- The cover tiles the rows. -/
theorem tile_cover {rows chunkSize : Nat} (hchunk : 0 < chunkSize) :
    Tile chunkSize 0 (cover rows chunkSize) rows := by
  have hrows : ∀ index < 0 + (rows + chunkSize - 1) / chunkSize, index * chunkSize < rows := by
    intro index hindex
    rw [Nat.zero_add, Nat.lt_div_iff_mul_lt hchunk] at hindex
    omega
  have htile := tile_map_range' hchunk hrows
  have hlast : rows ≤ (rows + chunkSize - 1) / chunkSize * chunkSize := by
    have hnext := Nat.lt_div_mul_add (a := rows + chunkSize - 1) hchunk
    omega
  rw [Nat.zero_mul, Nat.zero_add, Nat.zero_min, Nat.min_eq_right hlast] at htile
  rw [cover, List.range_eq_range']
  exact htile

end Block

end BellmanGrid
