import BellmanGrid.Proofs.Outcomes
import BellmanGrid.Table.Request

/-!
Which cells a row selector and a time select.

A time that is an integer names one column.  The rows beside it name rows of that column, unless
they add an axis of their own: nothing at all does, and so does a single truth value.  A truth value
that is false selects no cells, wherever it stands.
-/

namespace BellmanGrid

/-! ### Shapes of lists -/

namespace ShapeSearch

/-- A shape is known to have an axis. -/
structure HasAxis (search : ShapeSearch) : Prop where
  limit : 0 < search.limit
  shape : search.shape ≠ []

variable {search : ShapeSearch} {depth : Nat}

theorem HasAxis.entry (hsearch : search.HasAxis) (hdepth : 0 < depth) :
    (search.entry depth).HasAxis := by
  rw [ShapeSearch.entry]
  split
  · exact ⟨hsearch.limit, hsearch.shape⟩
  · exact ⟨hdepth, hsearch.shape⟩

theorem HasAxis.list (hsearch : search.HasAxis) (hdepth : 0 < depth) (size : Nat) :
    (search.list depth size).1.HasAxis := by
  rw [ShapeSearch.list]
  split
  · split
    · exact hsearch
    · exact ⟨hdepth, hsearch.shape⟩
  · exact ⟨hsearch.limit, List.append_ne_nil_of_right_ne_nil _ (List.cons_ne_nil _ _)⟩

end ShapeSearch

namespace Value

open ShapeSearch

mutual

theorem hasAxis_findShape {depth : Nat} (hdepth : 0 < depth) (value : Value)
    {search : ShapeSearch} (hsearch : search.HasAxis) : (findShape depth value search).HasAxis := by
  cases value with
  | list items =>
      rw [findShape]
      exact hasAxis_findListShape hdepth items hsearch
  | tuple items =>
      rw [findShape]
      exact hasAxis_findListShape hdepth items hsearch
  | _ =>
      simp only [findShape]
      exact hsearch.entry hdepth

theorem hasAxis_findListShape {depth : Nat} (hdepth : 0 < depth) (items : List Value)
    {search : ShapeSearch} (hsearch : search.HasAxis) :
    (findListShape depth items search).HasAxis := by
  have hlist := hsearch.list hdepth items.length
  rw [findListShape]
  split
  · have hentry := hsearch.entry hdepth
    exact ⟨hentry.limit, hentry.shape⟩
  · dsimp only
    split
    · split
      · exact ⟨Nat.succ_pos _, hlist.shape⟩
      · exact hasAxis_findShapes (Nat.succ_pos depth) items hlist
    · exact hlist

theorem hasAxis_findShapes {depth : Nat} (hdepth : 0 < depth) (items : List Value)
    {search : ShapeSearch} (hsearch : search.HasAxis) :
    (findShapes depth items search).HasAxis := by
  cases items with
  | nil =>
      rw [findShapes]
      exact hsearch
  | cons item rest =>
      rw [findShapes]
      exact hasAxis_findShapes hdepth rest (hasAxis_findShape hdepth item hsearch)

end

/-- The walk over a list starts with its length. -/
theorem hasAxis_findListShape_zero (items : List Value) :
    (findListShape 0 items ⟨axisLimit, [], false, false⟩).HasAxis := by
  have hsize : HasAxis ⟨axisLimit, [items.length], false, false⟩ :=
    ⟨Nat.succ_pos 63, List.cons_ne_nil _ _⟩
  rw [findListShape, if_neg (by decide)]
  show (if items.isEmpty then ShapeSearch.empty 0 ⟨axisLimit, [items.length], false, false⟩
    else findShapes 1 items ⟨axisLimit, [items.length], false, false⟩).HasAxis
  split
  · exact ⟨Nat.one_pos, hsize.shape⟩
  · exact hasAxis_findShapes Nat.one_pos items hsize

/-- A list has an axis. -/
theorem shape_ne_nil {value : Value} {items : List Value} (hitems : value.items? = some items)
    {shape : List Nat} (hshape : value.shape axisLimit = .ok shape) : shape ≠ [] := by
  have hwalk : (findShape 0 value ⟨axisLimit, [], false, false⟩).HasAxis := by
    cases value with
    | list items =>
        rw [findShape]
        exact hasAxis_findListShape_zero items
    | tuple items =>
        rw [findShape]
        exact hasAxis_findListShape_zero items
    | _ => cases hitems
  rw [Value.shape] at hshape
  split at hshape
  · cases hshape
  · obtain rfl := Except.ok.inj hshape
    rw [Ne, List.take_eq_nil_iff, not_or]
    exact ⟨Nat.ne_of_gt hwalk.limit, hwalk.shape⟩

end Value

/-! ### Values that are selectors -/

namespace Selector

theorem ofValue_boolean (flag : Bool) : ofValue (.boolean flag) = .ok (.mask [] [flag]) := by
  have hshape : Value.shape Value.axisLimit (.boolean flag) = .ok [] := by
    simp [Value.shape, Value.findShape, ShapeSearch.entry, Value.axisLimit]
  have hentries : Value.entries (.boolean flag) = [.boolean flag] := by
    simp [Value.entries]
  simp only [ofValue, hshape, hentries]
  rfl

theorem eq_of_ofEntries {shape axes : List Nat} {entries : List Value} {flags : List Bool}
    (hentries : ofEntries shape entries = .ok (.mask axes flags)) :
    shape = axes ∧ entries.mapM flag? = some flags := by
  rw [ofEntries] at hentries
  split at hentries
  · cases hentries
  · split at hentries
    · next found _ hfound =>
        cases hentries
        exact ⟨rfl, hfound⟩
    · split at hentries <;> cases hentries
    · cases hentries

theorem ofEntries_ne_newAxis {shape : List Nat} {entries : List Value} :
    ofEntries shape entries ≠ .ok .newAxis := by
  rw [ofEntries]
  intro hentries
  split at hentries
  · cases hentries
  · split at hentries
    · cases hentries
    · split at hentries <;> cases hentries
    · cases hentries

/-- What is neither absent nor an integer is looked at as an array. -/
theorem cases_of_ofValue {value : Value} {selector : Selector}
    (hvalue : ofValue value = .ok selector) :
    (value = .null ∧ selector = .newAxis) ∨
      (∃ index, value = .integer index ∧ selector = .position index) ∨
      ∃ shape, value.shape Value.axisLimit = .ok shape ∧
        ofEntries shape value.entries = .ok selector := by
  rw [ofValue.eq_def] at hvalue
  split at hvalue
  · exact Or.inl ⟨rfl, (Except.ok.inj hvalue).symm⟩
  · next index =>
      split at hvalue
      · exact Or.inr (Or.inl ⟨index, rfl, (Except.ok.inj hvalue).symm⟩)
      · split at hvalue <;> cases hvalue
  · rw [bind_eq_ok_iff] at hvalue
    obtain ⟨shape, hshape, hentries⟩ := hvalue
    exact Or.inr (Or.inr ⟨shape, mapError_eq_ok_iff.mp hshape, hentries⟩)

/-- Only nothing at all adds an axis. -/
theorem eq_null_of_ofValue {value : Value} (hvalue : ofValue value = .ok .newAxis) :
    value = .null := by
  obtain ⟨hnull, _⟩ | ⟨_, _, hposition⟩ | ⟨_, _, hentries⟩ := cases_of_ofValue hvalue
  · exact hnull
  · cases hposition
  · exact absurd hentries ofEntries_ne_newAxis

/-- Only a single truth value is a mask without axes. -/
theorem eq_boolean_of_ofValue {value : Value} {flags : List Bool}
    (hvalue : ofValue value = .ok (.mask [] flags)) :
    ∃ flag, value = .boolean flag ∧ flags = [flag] := by
  obtain ⟨_, hnewAxis⟩ | ⟨_, _, hposition⟩ | ⟨shape, hshape, hentries⟩ := cases_of_ofValue hvalue
  · cases hnewAxis
  · cases hposition
  · obtain ⟨rfl, hflags⟩ := eq_of_ofEntries hentries
    cases value with
    | boolean flag =>
        simp only [Value.entries, List.mapM_cons, List.mapM_nil, flag?] at hflags
        exact ⟨flag, rfl, (Option.some.inj hflags).symm⟩
    | list items => exact absurd rfl (Value.shape_ne_nil rfl hshape)
    | tuple items => exact absurd rfl (Value.shape_ne_nil rfl hshape)
    | _ =>
        simp only [Value.entries, List.mapM_cons, flag?] at hflags
        cases hflags

/-- A time within the horizon is an integer or a truth value. -/
theorem cases_of_isWithin {time : Value} {horizon : Nat} {selector : Selector}
    (hwithin : time.isWithin horizon = .ok true) (htime : ofValue time = .ok selector) :
    (∃ flag, time = .boolean flag ∧ selector = .mask [] [flag]) ∨
      ∃ index : Nat, time = .integer index ∧ index < horizon ∧ selector = .position index := by
  cases time with
  | boolean flag =>
      rw [ofValue_boolean] at htime
      exact Or.inl ⟨flag, rfl, (Except.ok.inj htime).symm⟩
  | integer given =>
      simp only [Value.isWithin, Value.compareInteger?, Except.ok.injEq, Bool.and_eq_true,
        Bool.or_eq_true, beq_iff_eq, Option.some.injEq, Int.compare_eq_gt, Int.compare_eq_eq,
        Int.compare_eq_lt] at hwithin
      obtain ⟨index, rfl⟩ := Int.eq_ofNat_of_zero_le (show 0 ≤ given by omega)
      rw [ofValue] at htime
      split at htime
      · exact Or.inr ⟨index, rfl, by omega, (Except.ok.inj htime).symm⟩
      · split at htime <;> cases htime
  | real number =>
      have hshape : Value.shape Value.axisLimit (.real number) = .ok [] := by
        simp [Value.shape, Value.findShape, ShapeSearch.entry, Value.axisLimit]
      have hentries : Value.entries (.real number) = [.real number] := by
        simp [Value.entries]
      simp only [ofValue, hshape, hentries] at htime
      cases htime
  | _ => cases hwithin

/-! ### Lengths of coordinates -/

theorem length_of_mem_coordinates {shape cell : List Nat} (hcell : cell ∈ coordinates shape) :
    cell.length = shape.length := by
  induction shape generalizing cell with
  | nil =>
      obtain rfl := List.mem_singleton.mp hcell
      rfl
  | cons size rest ih =>
      obtain ⟨index, _, hindex⟩ := List.mem_flatMap.mp hcell
      obtain ⟨inner, hinner, rfl⟩ := List.mem_map.mp hindex
      rw [List.length_cons, List.length_cons, ih hinner]

/-- A cell has a coordinate for each axis that a selector is about. -/
theorem selection_ensures (selector : Selector) (axis : Nat) (sizes : List Nat) :
    Ensures (fun selection => ∀ cell ∈ selection.cells, cell.length = selector.axesUsed)
      (fun _ => True) (selector.selection axis sizes) := by
  have hposition : ∀ index, Ensures (fun cell : List Nat => cell.length = 1) (fun _ => True)
      (do return [(← (BellmanGrid.position axis (sizes.headD 0) index).mapError
        SelectionError.outOfBounds).val] : Except SelectionError (List Nat)) := by
    intro index
    cases BellmanGrid.position axis (sizes.headD 0) index with
    | error cause => trivial
    | ok found => exact rfl
  cases selector with
  | position index =>
      apply (hposition index).bind
      intro cell hcell other hother
      rw [List.mem_singleton.mp hother]
      exact hcell
  | slice start stop step =>
      simp only [selection]
      cases Slice.ofValues start stop step with
      | error cause => trivial
      | ok slice =>
          simp only [bind, Except.bind]
          cases slice.positions? (sizes.headD 0) with
          | none => trivial
          | some selected =>
              intro cell hcell
              obtain ⟨index, _, rfl⟩ := List.mem_map.mp hcell
              rfl
  | newAxis =>
      intro cell hcell
      rw [List.mem_singleton.mp hcell]
      rfl
  | positions shape indices =>
      apply (Ensures.mapM indices fun index _ => hposition index).bind
      rintro cells ⟨_, hcells⟩ cell hcell
      exact hcells cell hcell
  | mask shape flags =>
      intro cell hcell
      obtain ⟨⟨place, flag⟩, hpair, hflag⟩ := List.mem_filterMap.mp hcell
      obtain ⟨_, hplace⟩ := Option.ite_none_right_eq_some.mp hflag
      obtain rfl := Option.some.inj hplace
      exact length_of_mem_coordinates (List.of_mem_zip hpair).1

end Selector

/-! ### Matched selections -/

namespace Selection

variable {first second joined : Selection}

theorem matched_eq_ok (hmatched : first.matched second = .ok joined) :
    ∃ target, Broadcast.join? first.shape.reverse second.shape.reverse = some target ∧
      joined.shape = target.reverse ∧
      ∀ cell ∈ joined.cells, 0 < extent target ∧ ∃ left right, cell = left ++ right ∧
        (left ∈ first.cells ∨ left = []) ∧ (right ∈ second.cells ∨ right = []) := by
  have hentry : ∀ (cells : List (List Nat)) (place : Nat),
      (cells.toArray[place]?).getD [] ∈ cells ∨ (cells.toArray[place]?).getD [] = [] := by
    intro cells place
    rw [List.getElem?_toArray]
    cases hcell : cells[place]? with
    | none => exact Or.inr rfl
    | some cell => exact Or.inl (List.mem_of_getElem? hcell)
  rw [matched] at hmatched
  dsimp only at hmatched
  split at hmatched
  · cases hmatched
  · next target htarget =>
      obtain rfl := Except.ok.inj hmatched
      refine ⟨target, htarget, rfl, ?_⟩
      intro cell hcell
      obtain ⟨place, hplace, rfl⟩ := List.mem_map.mp hcell
      exact ⟨Nat.zero_lt_of_lt (List.mem_range.mp hplace), _, _, rfl, hentry _ _, hentry _ _⟩

/-- A selection without cells along one of its axes, and so without any. -/
structure IsVoid (selection : Selection) : Prop where
  extent : extent selection.shape = 0
  cells : selection.cells = []

theorem IsVoid.matched (hvoid : first.IsVoid ∨ second.IsVoid)
    (hmatched : first.matched second = .ok joined) : joined.IsVoid := by
  obtain ⟨target, htarget, hshape, hcells⟩ := matched_eq_ok hmatched
  have hzero : BellmanGrid.extent target = 0 := by
    by_contra hne
    rcases hvoid with hfirst | hsecond
    · have hplace := Broadcast.sourcePosition_lt (Broadcast.fits_of_join?_left htarget)
        (Nat.pos_of_ne_zero hne)
      rw [Broadcast.extent_reverse, hfirst.extent] at hplace
      exact Nat.not_lt_zero _ hplace
    · have hplace := Broadcast.sourcePosition_lt (Broadcast.fits_of_join?_right htarget)
        (Nat.pos_of_ne_zero hne)
      rw [Broadcast.extent_reverse, hsecond.extent] at hplace
      exact Nat.not_lt_zero _ hplace
  refine ⟨?_, ?_⟩
  · rw [hshape, Broadcast.extent_reverse, hzero]
  · rw [List.eq_nil_iff_forall_not_mem]
    intro cell hcell
    exact absurd (hcells cell hcell).1 (by omega)

theorem cells_product_of_nil (hnil : first.cells = [] ∨ second.cells = []) :
    (first.product second).cells = [] := by
  rw [product]
  rcases hnil with hfirst | hsecond
  · rw [hfirst]
    rfl
  · simp [hsecond]

end Selection

namespace Selector

/-- Is a selector matched with its neighbours, once there is an array among them? -/
def isMatched : Selector → Bool
  | position _ => true
  | selector => selector.isArray

section SelectFrom

variable {hasArray : Bool} {axis : Nat} {sizes : List Nat} {group : Option Selection}
  {selector : Selector} {rest : List Selector} {selection : Selection}

theorem selectFrom_cons :
    selectFrom hasArray axis sizes group (selector :: rest) = (do
      let selected ← selector.selection axis sizes
      let next (group : Option Selection) : Except SelectionError Selection :=
        selectFrom hasArray (axis + selector.axesUsed) (sizes.drop selector.axesUsed) group rest
      if hasArray && selector.isMatched then
        match group with
        | some before => next (some (← before.matched selected))
        | none => next (some selected)
      else return (group.getD .unit).product (selected.product (← next none))) := by
  rw [selectFrom.eq_def]
  cases selector <;> rfl

/-- A selector is matched with the group before it, or ends the group. -/
theorem selectFrom_cons_eq_ok
    (hselect : selectFrom hasArray axis sizes group (selector :: rest) = .ok selection) :
    ∃ selected, selector.selection axis sizes = .ok selected ∧
      if hasArray && selector.isMatched then
        ∃ joined, (group = none ∧ joined = selected ∨
            ∃ before, group = some before ∧ before.matched selected = .ok joined) ∧
          selectFrom hasArray (axis + selector.axesUsed) (sizes.drop selector.axesUsed)
            (some joined) rest = .ok selection
      else
        ∃ others, selectFrom hasArray (axis + selector.axesUsed) (sizes.drop selector.axesUsed) none
            rest = .ok others ∧
          selection = (group.getD .unit).product (selected.product others) := by
  rw [selectFrom_cons, bind_eq_ok_iff] at hselect
  obtain ⟨selected, hselected, hselect⟩ := hselect
  refine ⟨selected, hselected, ?_⟩
  dsimp only at hselect
  split at hselect
  · next hjoins =>
      rw [if_pos hjoins]
      cases group with
      | none => exact ⟨selected, Or.inl ⟨rfl, rfl⟩, hselect⟩
      | some before =>
          obtain ⟨joined, hjoined, hnext⟩ := bind_eq_ok_iff.mp hselect
          exact ⟨joined, Or.inr ⟨before, rfl, hjoined⟩, hnext⟩
  · next hends =>
      rw [if_neg hends]
      obtain ⟨others, hothers, hproduct⟩ := bind_eq_ok_iff.mp hselect
      exact ⟨others, hothers, (Except.ok.inj hproduct).symm⟩

theorem isVoid_of_selection
    (hselected : (mask [] [false]).selection axis sizes = .ok selection) : selection.IsVoid := by
  obtain rfl := Except.ok.inj hselected
  exact ⟨rfl, rfl⟩

end SelectFrom

/-- Beside a truth value that is false nothing is selected. -/
theorem cells_selectFrom_of_false {selectors : List Selector} {axis : Nat} {sizes : List Nat}
    {group : Option Selection} {selection : Selection}
    (hfalse : (∃ before, group = some before ∧ before.IsVoid) ∨ mask [] [false] ∈ selectors)
    (hselect : selectFrom true axis sizes group selectors = .ok selection) :
    selection.cells = [] := by
  induction selectors generalizing axis sizes group selection with
  | nil =>
      obtain ⟨before, rfl, hbefore⟩ | hmem := hfalse
      · obtain rfl := Except.ok.inj hselect
        exact hbefore.cells
      · exact absurd hmem List.not_mem_nil
  | cons selector rest ih =>
      obtain ⟨selected, hselected, hselect⟩ := selectFrom_cons_eq_ok hselect
      split at hselect
      · obtain ⟨joined, hjoined, hnext⟩ := hselect
        refine ih ?_ hnext
        obtain ⟨before, rfl, hbefore⟩ | hmem := hfalse
        · obtain ⟨hnone, _⟩ | ⟨found, hfound, hmatched⟩ := hjoined
          · cases hnone
          · obtain rfl := Option.some.inj hfound
            exact Or.inl ⟨joined, rfl, .matched (Or.inl hbefore) hmatched⟩
        · obtain rfl | hrest := List.mem_cons.mp hmem
          · have hvoid := isVoid_of_selection hselected
            obtain ⟨_, rfl⟩ | ⟨found, _, hmatched⟩ := hjoined
            · exact Or.inl ⟨_, rfl, hvoid⟩
            · exact Or.inl ⟨joined, rfl, .matched (Or.inr hvoid) hmatched⟩
          · exact Or.inr hrest
      · next hends =>
          obtain ⟨others, hothers, rfl⟩ := hselect
          obtain ⟨before, rfl, hbefore⟩ | hmem := hfalse
          · exact Selection.cells_product_of_nil (Or.inl hbefore.cells)
          · obtain rfl | hrest := List.mem_cons.mp hmem
            · exact absurd rfl hends
            · have hnil := ih (Or.inr hrest) hothers
              exact Selection.cells_product_of_nil
                (Or.inr (Selection.cells_product_of_nil (Or.inr hnil)))

/-- A selector of rows selects a row of an axis. -/
def Names (rows : Selector) (size row : Nat) : Prop :=
  ∃ selected, rows.selection 0 [size] = .ok selected ∧ [row] ∈ selected.cells

end Selector

section Select

open Selector

theorem select_eq_ok {sizes : List Nat} {selectors : List Selector} {selection : Selection}
    (hselect : select sizes selectors = .ok selection) :
    selectors.foldl (fun axes selector => axes + selector.axesUsed) 0 ≤ sizes.length ∧
      selectFrom (selectors.any isArray) 0 sizes none
        (selectors ++ List.replicate
          (sizes.length - selectors.foldl (fun axes selector => axes + selector.axesUsed) 0) .all) =
        .ok selection := by
  rw [select] at hselect
  by_cases hused : sizes.length <
      selectors.foldl (fun axes selector => axes + selector.axesUsed) 0
  · simp only [if_pos hused] at hselect
    cases hselect
  · simp only [if_neg hused] at hselect
    simp only [bind_eq_ok_iff] at hselect
    obtain ⟨_, _, _, _, hfrom⟩ := hselect
    exact ⟨Nat.not_lt.mp hused, hfrom⟩

theorem cells_select_of_false {sizes : List Nat} {selectors : List Selector}
    {selection : Selection} (hfalse : mask [] [false] ∈ selectors)
    (hselect : select sizes selectors = .ok selection) : selection.cells = [] := by
  obtain ⟨_, hfrom⟩ := select_eq_ok hselect
  rw [List.any_eq_true.mpr ⟨_, hfalse, rfl⟩] at hfrom
  exact cells_selectFrom_of_false (Or.inr (List.mem_append_left _ hfalse)) hfrom

theorem cells_position {axis : Nat} {size : Nat} {sizes : List Nat} {time : Int}
    {selection : Selection}
    (hselection : (Selector.position time).selection axis (size :: sizes) = .ok selection) :
    ∃ found, BellmanGrid.position axis size time = .ok found ∧ selection.cells = [[found.val]] := by
  simp only [Selector.selection, bind_eq_ok_iff, List.headD_cons] at hselection
  obtain ⟨cell, ⟨found, hfound, hcell⟩, hselection⟩ := hselection
  obtain rfl := Except.ok.inj hcell
  obtain rfl := Except.ok.inj hselection
  exact ⟨found, mapError_eq_ok_iff.mp hfound, rfl⟩

/-- An array of rows beside an integer selects cells of those rows in one column. -/
theorem names_of_select {rows : Selector} (harray : rows.isArray = true)
    (haxes : rows.axesUsed ≠ 0) {states count row column : Nat} {time : Int}
    {selection : Selection}
    (hselect : select [states, count] [rows, Selector.position time] = .ok selection)
    (hcell : [row, column] ∈ selection.cells) :
    rows.Names states row ∧ ∃ found, BellmanGrid.position 1 count time = .ok found ∧
      found.val = column := by
  obtain ⟨hused, hfrom⟩ := select_eq_ok hselect
  have htime : (Selector.position time).axesUsed = 1 := rfl
  simp only [List.foldl_cons, List.foldl_nil, htime, List.length_cons, List.length_nil] at hused
  have hone : rows.axesUsed = 1 := by omega
  have hmatched : rows.isMatched = true := by
    cases rows with
    | position index => rfl
    | _ => exact harray
  simp only [List.foldl_cons, List.foldl_nil, hone, htime, List.length_cons, List.length_nil,
    List.any_cons, harray, Bool.true_or, List.cons_append, List.nil_append] at hfrom
  obtain ⟨selected, hselected, hrest⟩ := selectFrom_cons_eq_ok hfrom
  rw [if_pos (by rw [hmatched]; rfl), hone] at hrest
  obtain ⟨before, ⟨_, rfl⟩ | ⟨_, hnone, _⟩, hrest⟩ := hrest
  · obtain ⟨last, hlast, hend⟩ := selectFrom_cons_eq_ok hrest
    rw [if_pos (show (true && (Selector.position time).isMatched) = true from rfl)] at hend
    obtain ⟨joined, ⟨hnone, _⟩ | ⟨first, hfirst, hjoined⟩, hend⟩ := hend
    · cases hnone
    · obtain rfl := Option.some.inj hfirst
      obtain rfl := Except.ok.inj hend
      obtain ⟨found, hfound, hcells⟩ := cells_position hlast
      obtain ⟨_, _, _, hmem⟩ := Selection.matched_eq_ok hjoined
      obtain ⟨_, left, right, happend, hleft, hright⟩ := hmem _ hcell
      rw [hcells, List.mem_singleton] at hright
      have hlength := congrArg List.length happend
      rw [List.length_append] at hlength
      rcases hleft with hleft | rfl
      · have hleftLength := (rows.selection_ensures 0 [states, count]).good_of_ok hselected _ hleft
        rcases hright with rfl | rfl
        · obtain ⟨single, rfl⟩ := List.length_eq_one_iff.mp (hleftLength.trans hone)
          cases happend
          exact ⟨⟨before, hselected, hleft⟩, found, hfound, rfl⟩
        · simp only [List.length_cons, List.length_nil] at hlength
          omega
      · rcases hright with rfl | rfl
        · simp only [List.length_cons, List.length_nil] at hlength
          omega
        · cases happend
  · cases hnone

end Select

end BellmanGrid
