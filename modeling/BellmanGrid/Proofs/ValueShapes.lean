import BellmanGrid.Value.Arrangement
import Mathlib.Tactic.Ring

/-!
A value with a shape has as many entries as cells of that shape.

The walk that finds the shape goes down first.  Until it meets its first entry, or its first empty
list, it only puts axes together; from then on the shape is settled, and whatever disagrees with it
spoils the walk for good.
-/

namespace BellmanGrid

namespace ShapeSearch

/-- The walk has settled on a shape, and nothing has disagreed with it. -/
structure IsSettled (search : ShapeSearch) : Prop where
  settled : search.settled = true
  even : search.ragged = false
  limit : search.limit = search.shape.length
  empty : ∀ depth, search.shape[depth]? = some 0 → depth + 1 = search.shape.length

/-- The walk is still on its way down to the first entry. -/
structure IsOpen (search : ShapeSearch) (depth : Nat) : Prop where
  unsettled : search.settled = false
  even : search.ragged = false
  length : search.shape.length = depth
  limit : depth ≤ search.limit
  nonempty : ∀ size ∈ search.shape, size ≠ 0

variable {search : ShapeSearch} {depth size : Nat}

theorem ragged_entry (hragged : search.ragged = true) (depth : Nat) :
    (search.entry depth).ragged = true := by
  rw [entry]
  split
  · exact hragged
  · show (search.ragged || search.settled) = true
    rw [hragged, Bool.true_or]

theorem ragged_list (hragged : search.ragged = true) (depth size : Nat) :
    (search.list depth size).1.ragged = true := by
  rw [list]
  split
  · split
    · exact hragged
    · rfl
  · exact hragged

/-- A settled shape holds for every entry. -/
theorem IsSettled.entry (hsettled : search.IsSettled)
    (heven : (search.entry depth).ragged = false) :
    search.entry depth = search ∧ depth = search.shape.length := by
  rw [ShapeSearch.entry] at heven ⊢
  split at heven
  · next hlimit =>
      rw [if_pos hlimit, ← hlimit]
      refine ⟨?_, hsettled.limit⟩
      rw [← hsettled.settled]
  · rw [hsettled.settled, Bool.or_true] at heven
    cases heven

/-- A settled shape holds for every list. -/
theorem IsSettled.list (hsettled : search.IsSettled)
    (heven : (search.list depth size).1.ragged = false) :
    search.list depth size = (search, true) ∧ search.shape[depth]? = some size := by
  rw [ShapeSearch.list, if_pos hsettled.settled] at heven ⊢
  split at heven
  · next hsize => exact ⟨if_pos hsize, hsize⟩
  · cases heven

theorem IsSettled.empty_eq (hsettled : search.IsSettled) (hsize : search.shape[depth]? = some 0) :
    search.empty depth = search := by
  rw [ShapeSearch.empty, hsettled.empty depth hsize, ← hsettled.limit, ← hsettled.settled]

/-- The first entry settles the shape. -/
theorem IsOpen.entry (hopen : search.IsOpen depth) :
    (search.entry depth).IsSettled ∧ (search.entry depth).shape = search.shape := by
  have hempty : ∀ place, search.shape[place]? = some 0 → place + 1 = search.shape.length :=
    fun place hplace => absurd rfl (hopen.nonempty 0 (List.mem_of_getElem? hplace))
  rw [ShapeSearch.entry]
  split
  · next hlimit => exact ⟨⟨rfl, hopen.even, hlimit.trans hopen.length.symm, hempty⟩, rfl⟩
  · refine ⟨⟨rfl, ?_, hopen.length.symm, hempty⟩, rfl⟩
    show (search.ragged || search.settled) = false
    rw [hopen.even, hopen.unsettled, Bool.or_false]

/-- A list on the way down adds an axis. -/
theorem IsOpen.list_eq (hopen : search.IsOpen depth) (size : Nat) :
    search.list depth size = ({ search with shape := search.shape ++ [size] }, true) := by
  rw [ShapeSearch.list, hopen.unsettled, if_neg Bool.false_ne_true, ← hopen.length,
    List.take_length]

theorem IsOpen.list (hopen : search.IsOpen depth) (hlimit : search.limit ≠ depth)
    (hsize : size ≠ 0) :
    IsOpen { search with shape := search.shape ++ [size] } (depth + 1) where
  unsettled := hopen.unsettled
  even := hopen.even
  length := by
    rw [List.length_append, hopen.length, List.length_singleton]
  limit := by
    have := hopen.limit
    show depth + 1 ≤ search.limit
    omega
  nonempty other hother := by
    rcases List.mem_append.mp hother with hbefore | hlast
    · exact hopen.nonempty other hbefore
    · rwa [List.mem_singleton.mp hlast]

/-- An empty list settles the shape as well. -/
theorem IsOpen.empty (hopen : search.IsOpen depth) :
    (ShapeSearch.empty depth { search with shape := search.shape ++ [0] }).IsSettled where
  settled := rfl
  even := hopen.even
  limit := by
    show depth + 1 = (search.shape ++ [0]).length
    rw [List.length_append, hopen.length, List.length_singleton]
  empty place hplace := by
    change (search.shape ++ [0])[place]? = some 0 at hplace
    show place + 1 = (search.shape ++ [0]).length
    rw [List.length_append, List.length_singleton]
    rcases Nat.lt_or_ge place search.shape.length with hbefore | hafter
    · rw [List.getElem?_append_left hbefore] at hplace
      exact absurd rfl (hopen.nonempty 0 (List.mem_of_getElem? hplace))
    · obtain ⟨hlast, _⟩ := List.getElem?_eq_some_iff.mp hplace
      rw [List.length_append, List.length_singleton] at hlast
      omega

end ShapeSearch

namespace Value

open ShapeSearch

/-! ### Walks that are spoiled -/

mutual

theorem ragged_findShape (depth : Nat) (value : Value) {search : ShapeSearch}
    (hragged : search.ragged = true) : (findShape depth value search).ragged = true := by
  cases value with
  | list items =>
      rw [findShape]
      exact ragged_findListShape depth items hragged
  | tuple items =>
      rw [findShape]
      exact ragged_findListShape depth items hragged
  | _ =>
      simp only [findShape]
      exact ragged_entry hragged depth

theorem ragged_findListShape (depth : Nat) (items : List Value) {search : ShapeSearch}
    (hragged : search.ragged = true) : (findListShape depth items search).ragged = true := by
  have hlist := ragged_list hragged depth items.length
  rw [findListShape]
  split
  · rfl
  · dsimp only
    split
    · split
      · exact hlist
      · exact ragged_findShapes (depth + 1) items hlist
    · exact hlist

theorem ragged_findShapes (depth : Nat) (items : List Value) {search : ShapeSearch}
    (hragged : search.ragged = true) : (findShapes depth items search).ragged = true := by
  cases items with
  | nil =>
      rw [findShapes]
      exact hragged
  | cons item rest =>
      rw [findShapes]
      exact ragged_findShapes depth rest (ragged_findShape depth item hragged)

end

theorem even_of_findShapes {depth : Nat} {search : ShapeSearch} (items : List Value)
    (heven : (findShapes depth items search).ragged = false) : search.ragged = false := by
  by_contra hspoiled
  rw [ragged_findShapes depth items (Bool.eq_true_of_not_eq_false hspoiled)] at heven
  cases heven

/-! ### Entries below a settled shape -/

mutual

theorem length_entries_of_isSettled (depth : Nat) (value : Value) {search : ShapeSearch}
    (hsettled : search.IsSettled) (heven : (findShape depth value search).ragged = false) :
    findShape depth value search = search ∧
      value.entries.length = extent (search.shape.drop depth) := by
  cases value with
  | list items =>
      rw [findShape] at heven ⊢
      rw [entries]
      exact length_listEntries_of_isSettled depth items hsettled heven
  | tuple items =>
      rw [findShape] at heven ⊢
      rw [entries]
      exact length_listEntries_of_isSettled depth items hsettled heven
  | _ =>
      simp only [findShape, entries] at heven ⊢
      obtain ⟨hsame, hdepth⟩ := hsettled.entry heven
      refine ⟨hsame, ?_⟩
      rw [hdepth, List.drop_length]
      rfl

theorem length_listEntries_of_isSettled (depth : Nat) (items : List Value) {search : ShapeSearch}
    (hsettled : search.IsSettled) (heven : (findListShape depth items search).ragged = false) :
    findListShape depth items search = search ∧
      (listEntries items).length = extent (search.shape.drop depth) := by
  rw [findListShape] at heven ⊢
  split at heven
  · cases heven
  · next hlimit =>
      rw [if_neg hlimit]
      dsimp only at heven ⊢
      have hlist : (search.list depth items.length).1.ragged = false := by
        by_contra hspoiled
        rw [Bool.not_eq_false] at hspoiled
        split at heven
        · split at heven
          · exact Bool.false_ne_true (heven.symm.trans hspoiled)
          · rw [ragged_findShapes _ items hspoiled] at heven
            cases heven
        · exact Bool.false_ne_true (heven.symm.trans hspoiled)
      obtain ⟨hsame, hsize⟩ := hsettled.list hlist
      have hdrop : extent (search.shape.drop depth) =
          items.length * extent (search.shape.drop (depth + 1)) := by
        obtain ⟨hdepth, hfound⟩ := List.getElem?_eq_some_iff.mp hsize
        rw [List.drop_eq_getElem_cons hdepth, hfound]
        rfl
      rw [hsame, if_pos rfl] at heven ⊢
      rw [hdrop]
      split at heven
      · next hempty =>
          obtain rfl := List.isEmpty_iff.mp hempty
          rw [if_pos hempty, hsettled.empty_eq hsize, listEntries, List.length_nil, Nat.zero_mul]
          exact ⟨rfl, rfl⟩
      · next hitems =>
          rw [if_neg hitems]
          exact length_entries_of_findShapes (depth + 1) items hsettled heven

theorem length_entries_of_findShapes (depth : Nat) (items : List Value) {search : ShapeSearch}
    (hsettled : search.IsSettled) (heven : (findShapes depth items search).ragged = false) :
    findShapes depth items search = search ∧
      (listEntries items).length = items.length * extent (search.shape.drop depth) := by
  cases items with
  | nil =>
      rw [findShapes, listEntries]
      exact ⟨rfl, (Nat.zero_mul _).symm⟩
  | cons item rest =>
      rw [findShapes] at heven ⊢
      have hfirst := even_of_findShapes rest heven
      obtain ⟨hsame, hlength⟩ := length_entries_of_isSettled depth item hsettled hfirst
      rw [hsame] at heven ⊢
      obtain ⟨hrest, hothers⟩ := length_entries_of_findShapes depth rest hsettled heven
      refine ⟨hrest, ?_⟩
      rw [listEntries, List.length_append, hlength, hothers, List.length_cons, Nat.add_mul,
        Nat.one_mul, Nat.add_comm]

end

/-! ### The way down to the first entry -/

mutual

theorem isSettled_findShape {depth : Nat} (value : Value) {search : ShapeSearch}
    (hopen : search.IsOpen depth) (heven : (findShape depth value search).ragged = false) :
    (findShape depth value search).IsSettled ∧ ∃ inner,
      (findShape depth value search).shape = search.shape ++ inner ∧
        value.entries.length = extent inner := by
  cases value with
  | list items =>
      rw [findShape] at heven ⊢
      rw [entries]
      exact isSettled_findListShape items hopen heven
  | tuple items =>
      rw [findShape] at heven ⊢
      rw [entries]
      exact isSettled_findListShape items hopen heven
  | _ =>
      simp only [findShape, entries]
      obtain ⟨hsettled, hshape⟩ := hopen.entry
      exact ⟨hsettled, [], by rw [hshape, List.append_nil], rfl⟩

theorem isSettled_findListShape {depth : Nat} (items : List Value) {search : ShapeSearch}
    (hopen : search.IsOpen depth) (heven : (findListShape depth items search).ragged = false) :
    (findListShape depth items search).IsSettled ∧ ∃ inner,
      (findListShape depth items search).shape = search.shape ++ inner ∧
        (listEntries items).length = extent inner := by
  rw [findListShape] at heven ⊢
  split at heven
  · cases heven
  · next hlimit =>
      rw [if_neg hlimit]
      rw [hopen.list_eq] at heven ⊢
      dsimp only at heven ⊢
      rw [if_pos rfl] at heven ⊢
      cases items with
      | nil => exact ⟨hopen.empty, [0], rfl, rfl⟩
      | cons item rest =>
          rw [List.isEmpty_cons, if_neg Bool.false_ne_true] at heven ⊢
          rw [findShapes, List.length_cons] at heven ⊢
          have hinner := hopen.list hlimit (Nat.add_one_ne_zero rest.length)
          have hfirst := even_of_findShapes rest heven
          obtain ⟨hsettled, inner, hshape, hlength⟩ := isSettled_findShape item hinner hfirst
          obtain ⟨hsame, hothers⟩ := length_entries_of_findShapes (depth + 1) rest hsettled heven
          rw [hsame]
          refine ⟨hsettled, (rest.length + 1) :: inner, ?_, ?_⟩
          · rw [hshape, List.append_assoc]
            rfl
          · rw [listEntries, List.length_append, hlength, hothers, hshape]
            have hdepth : (search.shape ++ [rest.length + 1]).length = depth + 1 := by
              rw [List.length_append, hopen.length, List.length_singleton]
            dsimp only
            rw [← hdepth, List.drop_left]
            show _ = (rest.length + 1) * extent inner
            ring

end

/-- A value with a shape has as many entries as the shape has cells. -/
theorem length_entries {limit : Nat} {value : Value} {shape : List Nat}
    (hshape : value.shape limit = .ok shape) : value.entries.length = extent shape := by
  have hopen : IsOpen ⟨limit, [], false, false⟩ 0 :=
    ⟨rfl, rfl, rfl, Nat.zero_le _, fun _ hmem => absurd hmem List.not_mem_nil⟩
  rw [Value.shape] at hshape
  split at hshape
  · cases hshape
  · next heven =>
      obtain rfl := Except.ok.inj hshape
      obtain ⟨hsettled, inner, hinner, hlength⟩ :=
        isSettled_findShape value hopen (Bool.eq_false_of_not_eq_true heven)
      rw [hsettled.limit, List.take_length, hinner, List.nil_append]
      exact hlength

end Value

end BellmanGrid
