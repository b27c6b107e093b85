import BellmanGrid.Proofs.SelectedCells
import BellmanGrid.Proofs.ValueShapes

/-!
How many cells are selected, and what one column more changes.

A selection has as many cells as its shape says.  The same selectors select the same cells of costs
and of controls, but for those of the last column, which only costs have.
-/

namespace BellmanGrid

namespace Selector

/-! ### Numbers of selected cells -/

/-- An array of positions has as many of them as its shape says. -/
def IsCounted : Selector → Prop
  | positions shape indices => indices.length = extent shape
  | _ => True

theorem length_of_mapM {β γ : Type} {read : β → Option γ} {items : List β} {results : List γ}
    (hresults : items.mapM read = some results) : results.length = items.length := by
  induction items generalizing results with
  | nil =>
      obtain rfl := Option.some.inj hresults
      rfl
  | cons item rest ih =>
      simp only [List.mapM_cons, Option.bind_eq_bind, Option.bind_eq_some_iff] at hresults
      obtain ⟨first, _, others, hothers, hresults⟩ := hresults
      obtain rfl := Option.some.inj hresults
      rw [List.length_cons, List.length_cons, ih hothers]

theorem isCounted_of_ofEntries {shape : List Nat} {entries : List Value} {selector : Selector}
    (hlength : entries.length = extent shape) (hentries : ofEntries shape entries = .ok selector) :
    selector.IsCounted := by
  rw [ofEntries] at hentries
  split at hentries
  · next hempty =>
      obtain rfl := Except.ok.inj hentries
      rw [List.isEmpty_iff.mp hempty] at hlength
      exact hlength
  · split at hentries
    · obtain rfl := Except.ok.inj hentries
      trivial
    · next values _ hvalues =>
        split at hentries
        · obtain rfl := Except.ok.inj hentries
          show (values.map storedPosition).length = extent shape
          rw [List.length_map, length_of_mapM hvalues, hlength]
        · cases hentries
    · cases hentries

theorem isCounted_of_ofValue {value : Value} {selector : Selector}
    (hvalue : ofValue value = .ok selector) : selector.IsCounted := by
  obtain ⟨_, rfl⟩ | ⟨_, _, rfl⟩ | ⟨shape, hshape, hentries⟩ := cases_of_ofValue hvalue
  · trivial
  · trivial
  · exact isCounted_of_ofEntries (Value.length_entries hshape) hentries

end Selector

namespace Selection

/-- A selection has as many cells as its shape says. -/
def IsCounted (selection : Selection) : Prop :=
  selection.cells.length = extent selection.shape

theorem isCounted_unit : unit.IsCounted := rfl

variable {first second : Selection}

theorem IsCounted.product (hfirst : first.IsCounted) (hsecond : second.IsCounted) :
    (first.product second).IsCounted := by
  rw [IsCounted] at hfirst hsecond ⊢
  simp only [Selection.product, List.length_flatMap, List.length_map, List.map_const',
    List.sum_replicate_nat, Broadcast.extent_append]
  rw [hfirst, hsecond]

theorem isCounted_matched {joined : Selection} (hmatched : first.matched second = .ok joined) :
    joined.IsCounted := by
  rw [matched] at hmatched
  dsimp only at hmatched
  split at hmatched
  · cases hmatched
  · obtain rfl := Except.ok.inj hmatched
    rw [IsCounted, List.length_map, List.length_range, Broadcast.extent_reverse]

end Selection

namespace Selector

theorem isCounted_selection {selector : Selector} (hcounted : selector.IsCounted) (axis : Nat)
    (sizes : List Nat) :
    Ensures Selection.IsCounted (fun _ => True) (selector.selection axis sizes) := by
  have hany : ∀ {β : Type} (run : Except SelectionError β),
      Ensures (fun _ => True) (fun _ => True) run := by
    intro β run
    cases run <;> trivial
  cases selector with
  | position index => exact (hany _).bind fun cell _ => rfl
  | slice start stop step =>
      simp only [selection]
      cases Slice.ofValues start stop step with
      | error cause => trivial
      | ok slice =>
          simp only [bind, Except.bind]
          cases slice.positions? (sizes.headD 0) with
          | none => trivial
          | some selected =>
              show (selected.map _).length = extent [selected.length]
              rw [List.length_map]
              exact (Nat.mul_one _).symm
  | newAxis => exact rfl
  | positions shape indices =>
      apply (Ensures.mapM indices fun index _ => hany _).bind
      rintro cells ⟨hlength, _⟩
      exact hlength.trans hcounted
  | mask shape flags => exact (Nat.mul_one _).symm

theorem isCounted_selectFrom {hasArray : Bool} {selectors : List Selector} {axis : Nat}
    {sizes : List Nat} {group : Option Selection} {selection : Selection}
    (hselectors : ∀ selector ∈ selectors, selector.IsCounted)
    (hgroup : (group.getD .unit).IsCounted)
    (hselect : selectFrom hasArray axis sizes group selectors = .ok selection) :
    selection.IsCounted := by
  induction selectors generalizing axis sizes group selection with
  | nil =>
      obtain rfl := Except.ok.inj hselect
      exact hgroup
  | cons selector rest ih =>
      obtain ⟨hselector, hrest⟩ := List.forall_mem_cons.mp hselectors
      obtain ⟨selected, hselected, hselect⟩ := selectFrom_cons_eq_ok hselect
      have hcounted := (isCounted_selection hselector axis sizes).good_of_ok hselected
      split at hselect
      · obtain ⟨joined, ⟨_, rfl⟩ | ⟨_, _, hmatched⟩, hnext⟩ := hselect
        · refine ih hrest ?_ hnext
          exact hcounted
        · refine ih hrest ?_ hnext
          exact Selection.isCounted_matched hmatched
      · obtain ⟨others, hothers, rfl⟩ := hselect
        refine hgroup.product (hcounted.product (ih hrest ?_ hothers))
        exact Selection.isCounted_unit

end Selector

/-- What counted selectors select has as many cells as its shape says. -/
theorem isCounted_select {sizes : List Nat} {selectors : List Selector} {selection : Selection}
    (hselectors : ∀ selector ∈ selectors, selector.IsCounted)
    (hselect : select sizes selectors = .ok selection) : selection.IsCounted := by
  obtain ⟨_, hfrom⟩ := select_eq_ok hselect
  have hgroup : ((none : Option Selection).getD .unit).IsCounted := Selection.isCounted_unit
  refine Selector.isCounted_selectFrom (fun selector hmem => ?_) hgroup hfrom
  rcases List.mem_append.mp hmem with hgiven | hall
  · exact hselectors selector hgiven
  · rw [List.eq_of_mem_replicate hall]
    trivial

/-! ### One column more -/

namespace Selection

/-- Two selections, of an array with `size` columns and of one with a column more: they have the
same cells, or the longer one has some of the last column besides. -/
def Extends (size : Nat) (shorter longer : Selection) : Prop :=
  shorter.cells = longer.cells ∨ (∀ cell ∈ longer.cells, cell ≠ []) ∧
    ∀ cell, cell ∈ shorter.cells ↔
      cell ∈ longer.cells ∧ ∃ column ∈ cell.getLast?, column < size

theorem mem_cells_product {first second : Selection} {cell : List Nat} :
    cell ∈ (first.product second).cells ↔
      ∃ left ∈ first.cells, ∃ right ∈ second.cells, left ++ right = cell := by
  simp only [product, List.mem_flatMap, List.mem_map]

theorem product_unit (selection : Selection) : selection.product .unit = selection := by
  simp [product, unit]

/-- Cells before the last ones do not matter. -/
theorem Extends.product {size : Nat} {shorter longer : Selection}
    (hextends : shorter.Extends size longer) (before : Selection) :
    (before.product shorter).Extends size (before.product longer) := by
  obtain hsame | ⟨hnonempty, hcells⟩ := hextends
  · left
    simp only [Selection.product, hsame]
  · have hlast : ∀ left right : List Nat, right ≠ [] →
        (left ++ right).getLast? = right.getLast? := by
      intro left right hright
      rw [List.getLast?_append, List.getLast?_eq_some_getLast hright, Option.some_or]
    refine Or.inr ⟨fun cell hcell => ?_, fun cell => ?_⟩
    · obtain ⟨left, _, right, hright, rfl⟩ := mem_cells_product.mp hcell
      exact List.append_ne_nil_of_right_ne_nil left (hnonempty right hright)
    · rw [mem_cells_product, mem_cells_product]
      constructor
      · rintro ⟨left, hleft, right, hright, rfl⟩
        obtain ⟨hlonger, hcolumn⟩ := (hcells right).mp hright
        rw [hlast left right (hnonempty right hlonger)]
        exact ⟨⟨left, hleft, right, hlonger, rfl⟩, hcolumn⟩
      · rintro ⟨⟨left, hleft, right, hright, rfl⟩, hcolumn⟩
        rw [hlast left right (hnonempty right hright)] at hcolumn
        exact ⟨left, hleft, right, (hcells right).mpr ⟨hright, hcolumn⟩, rfl⟩

end Selection

namespace Selector

/-- A selector looks at the first of the sizes at most. -/
theorem selection_congr {selector : Selector} {axis : Nat} {sizes others : List Nat}
    (hsizes : selector.axesUsed ≠ 0 → sizes.headD 0 = others.headD 0) :
    selector.selection axis sizes = selector.selection axis others := by
  cases selector with
  | newAxis => rfl
  | mask shape flags => rfl
  | _ =>
      have hsize : sizes.headD 0 = others.headD 0 := hsizes Nat.one_ne_zero
      simp only [selection]
      rw [hsize]

/-- A whole axis has all of its positions. -/
theorem mem_positions_all {size : Nat} {selected : List (Fin size)}
    (hselected : Slice.positions? ⟨none, none, none⟩ size = some selected) (place : Fin size) :
    place ∈ selected := by
  have hcount : (((size : Int) - 0 + 1 - 1) / 1).toNat = size := by omega
  obtain rfl := Option.some.inj hselected
  show place ∈ (List.range (((size : Int) - 0 + 1 - 1) / 1).toNat).filterMap fun (index : Nat) =>
    (BellmanGrid.position 0 size (0 + (index : Int) * 1)).toOption
  rw [hcount, List.mem_filterMap]
  refine ⟨place.val, List.mem_range.mpr place.isLt, ?_⟩
  rw [Int.zero_add, Int.mul_one, position_of_lt 0 place.isLt]
  rfl

theorem mem_cells_all {axis size : Nat} {selection : Selection}
    (hselection : Selector.all.selection axis [size] = .ok selection) (cell : List Nat) :
    cell ∈ selection.cells ↔ ∃ column, column < size ∧ cell = [column] := by
  obtain ⟨selected, hselected⟩ :
      ∃ selected, Slice.positions? ⟨none, none, none⟩ size = some selected := ⟨_, rfl⟩
  have hall : Selector.all.selection axis [size] =
      .ok ⟨[selected.length], selected.map fun index => [index.val]⟩ := by
    have hbounds : Slice.ofValues .null .null .null = .ok ⟨none, none, none⟩ := rfl
    simp only [Selector.all, Selector.selection, hbounds, List.headD_cons, bind, Except.bind,
      hselected]
    rfl
  rw [hall] at hselection
  obtain rfl := Except.ok.inj hselection
  rw [List.mem_map]
  constructor
  · rintro ⟨place, _, rfl⟩
    exact ⟨place.val, place.isLt, rfl⟩
  · rintro ⟨column, hcolumn, rfl⟩
    exact ⟨⟨column, hcolumn⟩, mem_positions_all hselected _, rfl⟩

/-- A whole axis that is longer by one position has that position besides. -/
theorem extends_all {axis size : Nat} {shorter longer : Selection}
    (hshorter : Selector.all.selection axis [size] = .ok shorter)
    (hlonger : Selector.all.selection axis [size + 1] = .ok longer) :
    shorter.Extends size longer := by
  refine Or.inr ⟨fun cell hcell => ?_, fun cell => ?_⟩
  · obtain ⟨column, _, rfl⟩ := (mem_cells_all hlonger cell).mp hcell
    exact List.cons_ne_nil _ _
  · rw [mem_cells_all hshorter, mem_cells_all hlonger]
    constructor
    · rintro ⟨column, hcolumn, rfl⟩
      exact ⟨⟨column, Nat.lt_succ_of_lt hcolumn, rfl⟩, column, rfl, hcolumn⟩
    · rintro ⟨⟨column, _, rfl⟩, last, hlast, hless⟩
      obtain rfl : column = last := Option.some.inj hlast
      exact ⟨column, hless, rfl⟩

/-- What a selector is matched to is settled by the group before it. -/
theorem joined_unique {group : Option Selection} {selected joined other : Selection}
    (hjoined : group = none ∧ joined = selected ∨
      ∃ before, group = some before ∧ before.matched selected = .ok joined)
    (hother : group = none ∧ other = selected ∨
      ∃ before, group = some before ∧ before.matched selected = .ok other) : joined = other := by
  obtain ⟨rfl, rfl⟩ | ⟨before, rfl, hmatched⟩ := hjoined
  · obtain ⟨_, hequal⟩ | ⟨_, hnone, _⟩ := hother
    · exact hequal.symm
    · cases hnone
  · obtain ⟨hnone, _⟩ | ⟨_, hgroup, hrematched⟩ := hother
    · cases hnone
    · obtain rfl := Option.some.inj hgroup
      exact Except.ok.inj (hmatched.symm.trans hrematched)

/-- The last axis is selected whole, or in one column that both arrays have. -/
theorem extends_selectFrom {hasArray : Bool} {front : List Selector} {last : Selector}
    {size : Nat} (hlast : last = .all ∨ ∃ index : Nat, index < size ∧ last = .position index)
    {axis : Nat} {sizes : List Nat} (haxes : (front.map axesUsed).sum = sizes.length)
    {group : Option Selection} {shorter longer : Selection}
    (hshorter : selectFrom hasArray axis (sizes ++ [size]) group (front ++ [last]) = .ok shorter)
    (hlonger : selectFrom hasArray axis (sizes ++ [size + 1]) group (front ++ [last]) =
      .ok longer) : shorter.Extends size longer := by
  induction front generalizing axis sizes group shorter longer with
  | nil =>
      obtain rfl := List.eq_nil_of_length_eq_zero haxes.symm
      rw [List.nil_append] at hshorter hlonger
      obtain ⟨selected, hselected, hshorter⟩ := selectFrom_cons_eq_ok hshorter
      obtain ⟨other, hother, hlonger⟩ := selectFrom_cons_eq_ok hlonger
      obtain rfl | ⟨index, hindex, rfl⟩ := hlast
      · have hends : ¬ (hasArray && Selector.all.isMatched) = true := by
          rw [show Selector.all.isMatched = false from rfl, Bool.and_false]
          exact Bool.false_ne_true
        rw [if_neg hends] at hshorter hlonger
        obtain ⟨others, hothers, rfl⟩ := hshorter
        obtain ⟨longerOthers, hlongerOthers, rfl⟩ := hlonger
        obtain rfl := Except.ok.inj hothers
        obtain rfl := Except.ok.inj hlongerOthers
        refine Selection.Extends.product ?_ _
        show (selected.product .unit).Extends size (other.product .unit)
        rw [Selection.product_unit, Selection.product_unit]
        exact extends_all hselected hother
      · have hsame : (position index).selection axis [size + 1] =
            (position index).selection axis [size] := by
          simp only [Selector.selection, List.headD_cons, position_of_lt axis hindex,
            position_of_lt axis (Nat.lt_succ_of_lt hindex)]
          rfl
        rw [hsame, hselected] at hother
        obtain rfl := Except.ok.inj hother
        left
        split at hshorter
        · next hjoins =>
            rw [if_pos hjoins] at hlonger
            obtain ⟨joined, hjoined, hshorter⟩ := hshorter
            obtain ⟨rejoined, hrejoined, hlonger⟩ := hlonger
            obtain rfl := joined_unique hjoined hrejoined
            obtain rfl := Except.ok.inj hshorter
            obtain rfl := Except.ok.inj hlonger
            rfl
        · next hends =>
            rw [if_neg hends] at hlonger
            obtain ⟨others, hothers, rfl⟩ := hshorter
            obtain ⟨longerOthers, hlongerOthers, rfl⟩ := hlonger
            obtain rfl := Except.ok.inj hothers
            obtain rfl := Except.ok.inj hlongerOthers
            rfl
  | cons selector rest ih =>
      rw [List.map_cons, List.sum_cons] at haxes
      have hselection : selector.selection axis (sizes ++ [size + 1]) =
          selector.selection axis (sizes ++ [size]) := by
        refine selection_congr fun hused => ?_
        cases sizes with
        | nil => simp only [List.length_nil] at haxes; omega
        | cons first others => rfl
      have hdrop : ∀ last, (sizes ++ [last]).drop selector.axesUsed =
          sizes.drop selector.axesUsed ++ [last] := fun last =>
        List.drop_append_of_le_length (by omega)
      have hrest : (rest.map axesUsed).sum = (sizes.drop selector.axesUsed).length := by
        rw [List.length_drop]
        omega
      obtain ⟨selected, hselected, hshorter⟩ := selectFrom_cons_eq_ok hshorter
      obtain ⟨other, hother, hlonger⟩ := selectFrom_cons_eq_ok hlonger
      rw [hselection, hselected] at hother
      obtain rfl := Except.ok.inj hother
      rw [hdrop] at hshorter hlonger
      split at hshorter
      · next hjoins =>
          rw [if_pos hjoins] at hlonger
          obtain ⟨joined, hjoined, hshorter⟩ := hshorter
          obtain ⟨rejoined, hrejoined, hlonger⟩ := hlonger
          obtain rfl := joined_unique hjoined hrejoined
          exact ih hrest hshorter hlonger
      · next hends =>
          rw [if_neg hends] at hlonger
          obtain ⟨others, hothers, rfl⟩ := hshorter
          obtain ⟨longerOthers, hlongerOthers, rfl⟩ := hlonger
          exact ((ih hrest hothers hlongerOthers).product selected).product _

end Selector

/-- Rows beside a time within the horizon select the same cells of an array with `size` columns and
of one with a column more, up to cells of the last column. -/
theorem extends_select {rows time : Selector} {states size : Nat}
    (htime : (∃ flag, time = .mask [] [flag]) ∨
      ∃ index : Nat, index < size ∧ time = .position index)
    {shorter longer : Selection} (hshorter : select [states, size] [rows, time] = .ok shorter)
    (hlonger : select [states, size + 1] [rows, time] = .ok longer) :
    shorter.Extends size longer := by
  obtain ⟨hused, hshorter⟩ := select_eq_ok hshorter
  obtain ⟨_, hlonger⟩ := select_eq_ok hlonger
  simp only [List.foldl_cons, List.foldl_nil, Nat.zero_add, List.length_cons,
    List.length_nil] at hused hshorter hlonger
  obtain ⟨flag, rfl⟩ | ⟨index, hindex, rfl⟩ := htime
  · have hflag : (Selector.mask [] [flag]).axesUsed = 0 := rfl
    have hall : Selector.all.axesUsed = 1 := rfl
    rw [hflag] at hused hshorter hlonger
    obtain hnone | hone | htwo : rows.axesUsed = 0 ∨ rows.axesUsed = 1 ∨ rows.axesUsed = 2 := by
      omega
    · rw [hnone] at hshorter hlonger
      have haxes : ([rows, .mask [] [flag], .all].map Selector.axesUsed).sum = [states].length := by
        simp [hnone, hflag, hall]
      exact Selector.extends_selectFrom (Or.inl rfl) haxes hshorter hlonger
    · rw [hone] at hshorter hlonger
      have haxes : ([rows, .mask [] [flag]].map Selector.axesUsed).sum = [states].length := by
        simp [hone, hflag]
      exact Selector.extends_selectFrom (Or.inl rfl) haxes hshorter hlonger
    · -- Truth values for both axes fit one of the arrays only, but that is not needed here.
      cases rows with
      | mask shape flags =>
          rw [htwo] at hshorter hlonger
          exact Or.inl (congrArg Selection.cells (Except.ok.inj (hshorter.symm.trans hlonger)))
      | _ => cases htwo
  · have hposition : (Selector.position index).axesUsed = 1 := rfl
    rw [hposition] at hused hshorter hlonger
    obtain hnone | hone : rows.axesUsed = 0 ∨ rows.axesUsed = 1 := by omega
    · rw [hnone] at hshorter hlonger
      have haxes : ([rows, .position index].map Selector.axesUsed).sum = [states].length := by
        simp [hnone, hposition]
      exact Selector.extends_selectFrom (Or.inl rfl) haxes hshorter hlonger
    · rw [hone] at hshorter hlonger
      have haxes : ([rows].map Selector.axesUsed).sum = [states].length := by
        simp [hone]
      exact Selector.extends_selectFrom (Or.inr ⟨index, hindex, rfl⟩) haxes hshorter hlonger

/-- Before the last column, the same cells are selected. -/
theorem Selection.Extends.mem_iff {size row column : Nat} {shorter longer : Selection}
    (hextends : shorter.Extends size longer) (hcolumn : column < size) :
    [row, column] ∈ shorter.cells ↔ [row, column] ∈ longer.cells := by
  obtain hsame | ⟨_, hcells⟩ := hextends
  · rw [hsame]
  · rw [hcells]
    exact and_iff_left ⟨column, rfl, hcolumn⟩

end BellmanGrid
