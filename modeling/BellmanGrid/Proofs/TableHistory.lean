import BellmanGrid.Proofs.FilledShare
import BellmanGrid.Proofs.TableWrites

/-!
Tables after any sequence of writes, successful or not.

A write of a stage never reaches the last column.  So that column is written once and for all, by
the first successful write of terminal costs, and a table that is complete has had one.
-/

namespace BellmanGrid

namespace Value

/-! ### Values of one number -/

theorem shape_integer (limit : Nat) (number : Int) :
    shape (limit + 1) (integer number) = .ok [] := by
  simp [shape, findShape, ShapeSearch.entry]

theorem entries_integer (number : Int) : entries (integer number) = [integer number] := by
  simp [entries]

theorem toTensor_one : (integer 1).toTensor = .ok (Tensor.single 1.0) := by
  rw [toTensor, axisLimit, shape_integer, entries_integer]
  rfl

theorem toTensor_singleton : (list [integer 1]).toTensor = .ok ⟨[1], #[1.0], rfl⟩ := by
  have hshape : shape axisLimit (list [integer 1]) = .ok [1] := by
    simp [shape, findShape, findListShape, findShapes, ShapeSearch.list, ShapeSearch.entry,
      axisLimit]
  have hentries : entries (list [integer 1]) = [integer 1] := by
    simp [entries, listEntries]
  rw [toTensor, hshape, hentries]
  rfl

end Value

namespace Table

variable {states horizon : Nat} {table : Table Float states horizon}

/-- The table after writes, one after the other, whatever they end with. -/
def after (table : Table Float states horizon) (writes : List Write) :
    Table Float states horizon :=
  writes.foldl (fun table write => (write.perform table).1) table

/-- A table takes terminal costs. -/
def Takes (table : Table Float states horizon) (values : Value) : Prop :=
  ((Write.terminal values).perform table).2 = .ok ()

/-- A table knows its terminal costs, and they are the entries of a value. -/
def HoldsEnds (table : Table Float states horizon) (values : Value) : Prop :=
  table.terminalSet = true ∧ ∃ costs, values.toTensor = .ok costs ∧ costs.shape = [states] ∧
    ∀ row : Fin states, (table.cost.get (Fin.last horizon)).get row = costs.data[row.val]?

/-- Two tables have the same last column, and know as much of it. -/
structure SameEnds (before after : Table Float states horizon) : Prop where
  terminalSet : after.terminalSet = before.terminalSet
  cost : ∀ row : Fin states,
    (after.cost.get (Fin.last horizon)).get row = (before.cost.get (Fin.last horizon)).get row

theorem SameEnds.refl (table : Table Float states horizon) : SameEnds table table :=
  ⟨rfl, fun _ => rfl⟩

theorem SameEnds.trans {first second third : Table Float states horizon}
    (hfirst : SameEnds first second) (hsecond : SameEnds second third) : SameEnds first third :=
  ⟨hsecond.terminalSet.trans hfirst.terminalSet,
    fun row => (hsecond.cost row).trans (hfirst.cost row)⟩

theorem SameEnds.holdsEnds {before after : Table Float states horizon}
    (hsame : SameEnds before after) {values : Value} (hholds : before.HoldsEnds values) :
    after.HoldsEnds values := by
  obtain ⟨hset, costs, htensor, hshape, hcost⟩ := hholds
  exact ⟨hsame.terminalSet.trans hset, costs, htensor, hshape,
    fun row => (hsame.cost row).trans (hcost row)⟩

theorem after_append (table : Table Float states horizon) (earlier later : List Write) :
    table.after (earlier ++ later) = (table.after earlier).after later :=
  List.foldl_append

/-! ### One write -/

/-- No write but terminal costs that are taken changes the last column. -/
theorem sameEnds_perform {write : Write} (hkeeps : write.KeepsAxes)
    (hrefused : ∀ values, write = .terminal values → ¬ table.Takes values) :
    SameEnds table (write.perform table).1 := by
  cases write with
  | terminal values =>
      obtain ⟨error, herror⟩ | ⟨_, _, _, _, htaken⟩ := Write.perform_terminal table values
      · rw [herror]
        exact .refl table
      · exact absurd (congrArg Prod.snd htaken) (hrefused values rfl)
  | stage time rows costs controls =>
      have hsame := Write.sameOutside_stage table costs controls hkeeps
      refine ⟨hsame.terminalSet, fun row => hsame.cost row (Fin.last horizon) ?_⟩
      rintro ⟨_, hbefore, _⟩
      exact Nat.lt_irrefl _ hbefore

theorem holdsEnds_of_takes {values : Value} (htakes : table.Takes values) :
    ((Write.terminal values).perform table).1.HoldsEnds values := by
  obtain ⟨error, herror⟩ | ⟨_, costs, hshape, htensor, htaken⟩ :=
    Write.perform_terminal table values
  · rw [Takes, herror] at htakes
    cases htakes
  · rw [htaken]
    refine ⟨rfl, costs, htensor, hshape, fun row => ?_⟩
    have hcolumn : ∀ column : Vector (Option Float) states,
        (table.cost.set horizon column (Nat.lt_succ_self horizon)).get (Fin.last horizon) =
          column :=
      fun column => Vector.getElem_set_self _
    rw [hcolumn, get_map]
    exact (Array.getElem?_eq_getElem _).symm

/-- No write changes a cell that it is not about. -/
theorem sameOutside_perform (table : Table Float states horizon) {write : Write}
    (hkeeps : write.KeepsAxes) :
    (∀ (row : Fin states) (time : Fin (horizon + 1)), ¬ write.Addresses states horizon row time →
      ((write.perform table).1.cost.get time).get row = (table.cost.get time).get row) ∧
    ∀ (row : Fin states) (time : Fin horizon), ¬ write.Addresses states horizon row time →
      ((write.perform table).1.policy.get time).get row = (table.policy.get time).get row := by
  cases write with
  | terminal values =>
      obtain ⟨error, herror⟩ | ⟨_, costs, hshape, _, htaken⟩ := Write.perform_terminal table values
      · rw [herror]
        exact ⟨fun _ _ _ => rfl, fun _ _ _ => rfl⟩
      · rw [htaken]
        refine ⟨fun row time hnot => ?_, fun _ _ _ => rfl⟩
        exact get_set_column table.cost (Nat.lt_succ_self horizon) _ row time
          fun hlast => absurd hlast hnot
  | stage time rows costs controls =>
      have hsame := Write.sameOutside_stage table costs controls hkeeps
      exact ⟨hsame.cost, hsame.policy⟩

/-! ### Runs of writes -/

/-- Writes of which none is taken as terminal costs leave the last column as it is. -/
theorem sameEnds_after {writes : List Write} (hkeeps : ∀ write ∈ writes, write.KeepsAxes)
    (hrefused : ∀ earlier values later, writes = earlier ++ .terminal values :: later →
      ¬ (table.after earlier).Takes values) : SameEnds table (table.after writes) := by
  induction writes generalizing table with
  | nil => exact .refl table
  | cons write rest ih =>
      obtain ⟨hwrite, hrest⟩ := List.forall_mem_cons.mp hkeeps
      have hstep : SameEnds table (write.perform table).1 := by
        refine sameEnds_perform hwrite fun values hvalues => ?_
        exact hrefused [] values rest (by rw [hvalues, List.nil_append])
      refine hstep.trans (ih hrest fun earlier values later hsplit => ?_)
      exact hrefused (write :: earlier) values later (by rw [hsplit, List.cons_append])

/-- Once a table knows its terminal costs, it takes no others, whatever is written. -/
theorem not_takes_after {writes : List Write} (hkeeps : ∀ write ∈ writes, write.KeepsAxes)
    (hset : table.terminalSet = true) (values : Value) : ¬ (table.after writes).Takes values := by
  induction writes generalizing table with
  | nil =>
      obtain ⟨error, herror⟩ := Write.perform_terminal_of_terminalSet hset values
      show ¬ ((Write.terminal values).perform table).2 = .ok ()
      rw [herror]
      exact nofun
  | cons write rest ih =>
      obtain ⟨hwrite, hrest⟩ := List.forall_mem_cons.mp hkeeps
      have hstep : SameEnds table (write.perform table).1 := by
        refine sameEnds_perform hwrite fun given _ htakes => ?_
        obtain ⟨error, herror⟩ := Write.perform_terminal_of_terminalSet hset given
        rw [Takes, herror] at htakes
        cases htakes
      exact ih hrest (hstep.terminalSet.trans hset)

/-- Terminal costs that are taken stay, whatever is written later. -/
theorem holdsEnds_after {earlier later : List Write} {values : Value}
    (hkeeps : ∀ write ∈ later, write.KeepsAxes) (htakes : (table.after earlier).Takes values) :
    (table.after (earlier ++ .terminal values :: later)).HoldsEnds values := by
  have hholds := holdsEnds_of_takes htakes
  rw [after_append]
  refine (sameEnds_after hkeeps fun before given after hsplit => ?_).holdsEnds hholds
  refine not_takes_after (fun write hmem => hkeeps write ?_) hholds.1 given
  exact hsplit ▸ List.mem_append_left _ hmem

/-- A cell that no write is about stays as it is. -/
theorem get_after {writes : List Write} (hkeeps : ∀ write ∈ writes, write.KeepsAxes) :
    (∀ (row : Fin states) (time : Fin (horizon + 1)),
      (∀ write ∈ writes, ¬ write.Addresses states horizon row time) →
        ((table.after writes).cost.get time).get row = (table.cost.get time).get row) ∧
    ∀ (row : Fin states) (time : Fin horizon),
      (∀ write ∈ writes, ¬ write.Addresses states horizon row time) →
        ((table.after writes).policy.get time).get row = (table.policy.get time).get row := by
  induction writes generalizing table with
  | nil => exact ⟨fun _ _ _ => rfl, fun _ _ _ => rfl⟩
  | cons write rest ih =>
      obtain ⟨hwrite, hrest⟩ := List.forall_mem_cons.mp hkeeps
      obtain ⟨hcost, hpolicy⟩ := sameOutside_perform table hwrite
      obtain ⟨hlaterCost, hlaterPolicy⟩ := @ih (write.perform table).1 hrest
      constructor
      · intro row time hnot
        obtain ⟨hfirst, hothers⟩ := List.forall_mem_cons.mp hnot
        exact (hlaterCost row time hothers).trans (hcost row time hfirst)
      · intro row time hnot
        obtain ⟨hfirst, hothers⟩ := List.forall_mem_cons.mp hnot
        exact (hlaterPolicy row time hothers).trans (hpolicy row time hfirst)

/-- What a table holds after writes to a blank one. -/
structure HasHistory (writes : List Write) (table : Table Float states horizon) : Prop where
  unset : (∀ earlier values later, writes = earlier ++ .terminal values :: later →
      ¬ (blank.after earlier : Table Float states horizon).Takes values) →
    table.terminalSet = false ∧
      ∀ row : Fin states, (table.cost.get (Fin.last horizon)).get row = none
  ends : ∀ earlier values later, writes = earlier ++ .terminal values :: later →
    (blank.after earlier : Table Float states horizon).Takes values → table.HoldsEnds values
  once : ∀ earlier values between others later,
    writes = earlier ++ .terminal values :: (between ++ .terminal others :: later) →
      (blank.after earlier : Table Float states horizon).Takes values →
        ¬ (blank.after (earlier ++ .terminal values :: between) :
          Table Float states horizon).Takes others
  cost : ∀ (row : Fin states) (time : Fin (horizon + 1)),
    (∀ write ∈ writes, ¬ write.Addresses states horizon row time) →
      (table.cost.get time).get row = none
  policy : ∀ (row : Fin states) (time : Fin horizon),
    (∀ write ∈ writes, ¬ write.Addresses states horizon row time) →
      (table.policy.get time).get row = none
  lengths : ∀ row : Fin states, (rowOf table.cost row).length = horizon + 1 ∧
    (rowOf table.policy row).length = horizon

theorem get_cost_blank (row : Fin states) (time : Fin (horizon + 1)) :
    ((blank : Table Float states horizon).cost.get time).get row = none := by
  have hcolumn : (blank : Table Float states horizon).cost.get time =
      Vector.replicate states none := Vector.getElem_replicate _
  rw [hcolumn]
  exact Vector.getElem_replicate _

theorem get_policy_blank (row : Fin states) (time : Fin horizon) :
    ((blank : Table Float states horizon).policy.get time).get row = none := by
  have hcolumn : (blank : Table Float states horizon).policy.get time =
      Vector.replicate states none := Vector.getElem_replicate _
  rw [hcolumn]
  exact Vector.getElem_replicate _

theorem hasHistory_after {writes : List Write} (hkeeps : ∀ write ∈ writes, write.KeepsAxes) :
    HasHistory writes (blank.after writes : Table Float states horizon) where
  unset hrefused := by
    have hsame : SameEnds blank (blank.after writes : Table Float states horizon) :=
      sameEnds_after hkeeps hrefused
    exact ⟨hsame.terminalSet, fun row => (hsame.cost row).trans (get_cost_blank row _)⟩
  ends earlier values later hsplit htakes := by
    subst hsplit
    refine holdsEnds_after (fun write hmem => hkeeps write ?_) htakes
    exact List.mem_append_right _ (List.mem_cons_of_mem _ hmem)
  once earlier values between others later hsplit htakes := by
    subst hsplit
    rw [after_append]
    refine not_takes_after (fun write hmem => hkeeps write ?_) (holdsEnds_of_takes htakes).1 others
    exact List.mem_append_right _ (List.mem_cons_of_mem _ (List.mem_append_left _ hmem))
  cost row time hnot := ((get_after hkeeps).1 row time hnot).trans (get_cost_blank row time)
  policy row time hnot := ((get_after hkeeps).2 row time hnot).trans (get_policy_blank row time)
  lengths row := by
    simp [rowOf]

/-- A complete table knows its terminal costs, if it has a state. -/
theorem HasHistory.terminalSet_of_isComplete {writes : List Write}
    (hhistory : HasHistory writes table) (hstates : 0 < states)
    (hcomplete : table.isComplete = true) : table.terminalSet = true := by
  by_cases htaken : ∃ earlier values later, writes = earlier ++ .terminal values :: later ∧
      (blank.after earlier : Table Float states horizon).Takes values
  · obtain ⟨earlier, values, later, hsplit, htakes⟩ := htaken
    exact (hhistory.ends earlier values later hsplit htakes).1
  · obtain ⟨_, hempty⟩ := hhistory.unset fun earlier values later hsplit htakes =>
      htaken ⟨earlier, values, later, hsplit, htakes⟩
    have hcell := (table.isComplete_iff.mp hcomplete).1 horizon (Nat.lt_succ_self _) 0 hstates
    rw [show table.cost[horizon][0] = none from hempty ⟨0, hstates⟩] at hcell
    cases hcell

/-- After any sequence of writes to a blank table that can be stored, be they successful or not:
the last column is unset and the table knows of no terminal costs until some are taken; from then on
it holds those, and takes no others; cells that no write is about are unset; no column is longer or
shorter; and a complete table knows its terminal costs, and is one whose share of filled cells is
one. -/
theorem after_blank {size : Nat × Nat} (hsize : checkSize states horizon = .ok size)
    {writes : List Write} (hkeeps : ∀ write ∈ writes, write.KeepsAxes) :
    HasHistory writes (blank.after writes : Table Float states horizon) ∧
      ((blank.after writes : Table Float states horizon).isComplete = true →
        (blank.after writes : Table Float states horizon).terminalSet = true) ∧
      ((blank.after writes : Table Float states horizon).isComplete = true ↔
        (blank.after writes : Table Float states horizon).filledFraction = 1) := by
  have hhistory : HasHistory writes (blank.after writes : Table Float states horizon) :=
    hasHistory_after hkeeps
  exact ⟨hhistory, hhistory.terminalSet_of_isComplete (checkSize_eq_ok_iff.mp hsize).1,
    isComplete_iff_filledFraction _ hsize⟩

/-! ### Two writes that fill a table -/

/-- A stage whose costs are stored ends as its controls do. -/
theorem setStage_of_assign {table : Table Float states horizon} {time : Nat}
    (htime : time < horizon) {rows : Rows} {costs controls : Value}
    {costColumn policyColumn : Vector (Option Float) states} {outcome : Except TableError Unit}
    (hcosts : assign (table.cost.get ⟨time, Nat.lt_succ_of_lt htime⟩) rows costs =
      (costColumn, .ok ()))
    (hcontrols : assign (table.policy.get ⟨time, htime⟩) rows controls =
      (policyColumn, outcome)) :
    table.setStage time rows costs controls =
      (table.withColumns ⟨time, htime⟩ costColumn policyColumn, outcome) := by
  have hstage : 0 ≤ (time : Int) ∧ (time : Int) < horizon := by omega
  rw [get_eq_getElem] at hcosts hcontrols
  simp only [setStage, dif_pos hstage, Int.toNat_natCast, hcosts, hcontrols]
  rfl

/-- A stage of the one state of a table. -/
def firstWrite : Write :=
  .stage (.integer 0) (.slice .null .null .null) (.integer 1) (.integer 1)

/-- The stage of the one state, and then its terminal cost. -/
def twoWrites : List Write :=
  [firstWrite, .terminal (.list [.integer 1])]

/-- A number fills the only row of a column. -/
theorem assign_integer {cell : Option Float} {number : Int} {cost : Float}
    (hcost : (Value.integer number).entryToReal = .ok cost) :
    assign #v[cell] (.slice ⟨none, none, none⟩) (.integer number) = (#v[some cost], .ok ()) := by
  have hpositions : Slice.positions? ⟨none, none, none⟩ 1 = some [0] := rfl
  have hread : readEntries [.integer number] = ([cost], .ok ()) := by
    rw [readEntries, hcost]
    rfl
  simp only [assign, hpositions, List.length_singleton, numbersFor, Value.shape_integer,
    Value.entries_integer, hread]
  rfl

theorem perform_firstWrite : firstWrite.perform (blank : Table Float 1 1) =
    (⟨#v[#v[some 1.0], #v[none]], #v[#v[some 1.0]], false⟩, .ok ()) := by
  have hassign : assign #v[none] (.slice ⟨none, none, none⟩) (.integer 1) =
      (#v[some 1.0], .ok ()) := assign_integer rfl
  have hstored := @setStage_of_assign 1 1 blank 0 Nat.one_pos _ _ _ _ _ _ hassign hassign
  exact congrArg (fun reply => (reply.1, reply.2.mapError TableRequestError.table)) hstored

theorem perform_twoWrites : (Write.terminal (.list [.integer 1])).perform
    (firstWrite.perform (blank : Table Float 1 1)).1 =
      (⟨#v[#v[some 1.0], #v[some 1.0]], #v[#v[some 1.0]], true⟩, .ok ()) := by
  rw [perform_firstWrite, Write.perform, setTerminal, Value.toTensor_singleton]
  simp [Vector.map]

theorem twoWrites_after_blank : checkSize 1 1 = .ok (1, 1) ∧
    (∀ write ∈ twoWrites, write.KeepsAxes) ∧
    (blank.after twoWrites : Table Float 1 1).HoldsEnds (.list [.integer 1]) ∧
    (blank.after twoWrites : Table Float 1 1).isComplete = true ∧
    (blank.after twoWrites : Table Float 1 1).filledFraction = 1 := by
  have hsize : checkSize 1 1 = .ok (1, 1) := rfl
  have hkeeps : ∀ write ∈ twoWrites, write.KeepsAxes := by
    intro write hmem
    obtain rfl | rfl : write = firstWrite ∨ write = .terminal (.list [.integer 1]) := by
      simpa [twoWrites] using hmem
    · exact ⟨nofun, nofun, nofun⟩
    · trivial
  have hcomplete : (blank.after twoWrites : Table Float 1 1).isComplete = true := by
    have hafter := congrArg Prod.fst perform_twoWrites
    rw [show (blank.after twoWrites : Table Float 1 1) = _ from hafter]
    decide +kernel
  obtain ⟨hhistory, _, hshare⟩ := @after_blank 1 1 _ hsize twoWrites hkeeps
  have htakes : (blank.after [firstWrite] : Table Float 1 1).Takes (.list [.integer 1]) :=
    congrArg Prod.snd perform_twoWrites
  exact ⟨hsize, hkeeps, hhistory.ends [firstWrite] _ [] rfl htakes, hcomplete,
    hshare.mp hcomplete⟩

/-- A write that fills a table, the last column with it, and that is no write of terminal costs. -/
def FillsWithoutEnds (write : Write) : Prop :=
  (write.perform (blank : Table Float 1 2)).2 = .ok () ∧
    (blank.after [write] : Table Float 1 2).isComplete = true ∧
    (blank.after [write] : Table Float 1 2).terminalSet = false

theorem fillsWithoutEnds_of_setSelected {write : Write} {rows time : Selector}
    (hwrite : write.perform (blank : Table Float 1 2) =
      blank.setSelected rows time (.integer 1) (.integer 1))
    (hcost : assignCells (blank : Table Float 1 2).cost [rows, time] (.integer 1) =
      (#v[#v[some 1.0], #v[some 1.0], #v[some 1.0]], .ok ()))
    (hpolicy : assignCells (blank : Table Float 1 2).policy [rows, time] (.integer 1) =
      (#v[#v[some 1.0], #v[some 1.0]], .ok ())) : FillsWithoutEnds write := by
  have hfilled : write.perform (blank : Table Float 1 2) =
      (⟨#v[#v[some 1.0], #v[some 1.0], #v[some 1.0]], #v[#v[some 1.0], #v[some 1.0]], false⟩,
        .ok ()) := by
    rw [hwrite]
    simp only [setSelected, hcost, hpolicy]
    rfl
  have hafter : (blank.after [write] : Table Float 1 2) = (write.perform blank).1 := rfl
  rw [FillsWithoutEnds, hafter, hfilled]
  exact ⟨rfl, by decide +kernel, rfl⟩

/-- The truth value true as a time, and nothing at all or the truth value true as rows, add an axis;
the other index then selects whole rows of the table. -/
theorem addedAxis_fillsWithoutEnds :
    FillsWithoutEnds (.stage (.boolean true) (.slice .null .null .null) (.integer 1) (.integer 1)) ∧
    FillsWithoutEnds (.stage (.integer 0) (.value .null) (.integer 1) (.integer 1)) ∧
    FillsWithoutEnds (.stage (.integer 0) (.value (.boolean true)) (.integer 1) (.integer 1)) := by
  refine ⟨?time, ?nothing, ?rows⟩
  case time =>
    have hwrite : (Write.stage (.boolean true) (.slice .null .null .null) (.integer 1)
        (.integer 1)).perform (blank : Table Float 1 2) =
          blank.setSelected .all (.mask [] [true]) (.integer 1) (.integer 1) := by
      simp only [Write.perform, setStageOf, Selector.ofValue_boolean]
      rfl
    have hcost : select [1, 3] [.all, .mask [] [true]] =
        .ok ⟨[1, 1, 3], [[0, 0], [0, 1], [0, 2]]⟩ := rfl
    have hpolicy : select [1, 2] [.all, .mask [] [true]] =
        .ok ⟨[1, 1, 2], [[0, 0], [0, 1]]⟩ := rfl
    refine fillsWithoutEnds_of_setSelected hwrite ?_ ?_
    · simp only [assignCells, hcost, numbersForArray, Value.toTensor_one]
      rfl
    · simp only [assignCells, hpolicy, numbersForArray, Value.toTensor_one]
      rfl
  case nothing =>
    have hwrite : (Write.stage (.integer 0) (.value .null) (.integer 1) (.integer 1)).perform
        (blank : Table Float 1 2) =
          blank.setSelected .newAxis (.position 0) (.integer 1) (.integer 1) := rfl
    have hcost : select [1, 3] [.newAxis, .position 0] =
        .ok ⟨[1, 3], [[0, 0], [0, 1], [0, 2]]⟩ := rfl
    have hpolicy : select [1, 2] [.newAxis, .position 0] = .ok ⟨[1, 2], [[0, 0], [0, 1]]⟩ := rfl
    have hkind : [Selector.newAxis, .position 0].any Selector.isArray = false := rfl
    refine fillsWithoutEnds_of_setSelected hwrite ?_ ?_
    · simp only [assignCells, hcost, hkind, numbersFor, List.length_cons, Value.shape_integer,
        Value.entries_integer]
      rfl
    · simp only [assignCells, hpolicy, hkind, numbersFor, List.length_cons, Value.shape_integer,
        Value.entries_integer]
      rfl
  case rows =>
    have hwrite : (Write.stage (.integer 0) (.value (.boolean true)) (.integer 1)
        (.integer 1)).perform (blank : Table Float 1 2) =
          blank.setSelected (.mask [] [true]) (.position 0) (.integer 1) (.integer 1) := by
      simp only [Write.perform, GivenRows.selector, Selector.ofValue_boolean]
      rfl
    have hcost : select [1, 3] [.mask [] [true], .position 0] =
        .ok ⟨[1, 3], [[0, 0], [0, 1], [0, 2]]⟩ := rfl
    have hpolicy : select [1, 2] [.mask [] [true], .position 0] =
        .ok ⟨[1, 2], [[0, 0], [0, 1]]⟩ := rfl
    refine fillsWithoutEnds_of_setSelected hwrite ?_ ?_
    · simp only [assignCells, hcost, numbersForArray, Value.toTensor_one]
      rfl
    · simp only [assignCells, hpolicy, numbersForArray, Value.toTensor_one]
      rfl

end Table

end BellmanGrid
