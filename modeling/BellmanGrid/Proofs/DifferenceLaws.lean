import BellmanGrid.Proofs.NearestPoint

/-!
Differences that may be rounded, and the points that they tell apart.

A rounded difference is still zero exactly when its operands are equal, and it still does not grow
with its right operand.  So the points of a grid are in strict order, and each of them is its own
nearest point, whatever the other differences are rounded to.
-/

namespace BellmanGrid

/-- The comparisons belong to one order, and differences tell finite quantities apart. -/
class LawfulDifference (α : Type) [Number α] : Prop extends OrderedNumber α where
  less_iff : ∀ first second : α, Number.less first second = true ↔
    Number.atMost first second = true ∧ Number.atMost second first = false
  same_iff : ∀ first second : α, Number.same first second = true ↔
    Number.atMost first second = true ∧ Number.atMost second first = true
  sub_atMost_sub : ∀ value first second : α, Number.isFinite value = true →
    Number.isFinite first = true → Number.isFinite second = true →
      Number.atMost first second = true →
        Number.atMost (value - second) (value - first) = true
  same_sub_zero_iff : ∀ first second : α, Number.isFinite first = true →
    Number.isFinite second = true →
      (Number.same (first - second) Number.zero = true ↔ Number.same first second = true)
  magnitude_of_nonneg : ∀ value : α, Number.atMost Number.zero value = true →
    Number.same (Number.magnitude value) value = true

variable {α : Type} [Number α]

theorem Grid.finite_point (grid : Grid α) (index : Fin grid.size) :
    Number.isFinite (grid.point index) = true :=
  grid.finite index index.isLt

section Points

variable [LawfulDifference α]

namespace LawfulDifference

open OrderedNumber

variable {first second third : α}

theorem less_of_less_of_atMost (hless : Number.less first second = true)
    (hle : Number.atMost second third = true) : Number.less first third = true := by
  rw [less_iff] at hless ⊢
  refine ⟨atMost_trans _ _ _ hless.1 hle, ?_⟩
  rw [Bool.eq_false_iff]
  intro hback
  exact Bool.false_ne_true (hless.2.symm.trans (atMost_trans _ _ _ hle hback))

theorem not_less_self (value : α) : Number.less value value = false := by
  rw [Bool.eq_false_iff]
  intro hless
  rw [less_iff] at hless
  exact Bool.false_ne_true (hless.2.symm.trans hless.1)

theorem same_self (hfinite : Number.isFinite first = true) : Number.same first first = true :=
  (same_iff first first).mpr ⟨atMost_refl first hfinite, atMost_refl first hfinite⟩

/-- A difference that is above zero has the larger operand on its left. -/
theorem less_of_sub_pos (hfirst : Number.isFinite first = true)
    (hsecond : Number.isFinite second = true)
    (hpos : Number.less Number.zero (second - first) = true) :
    Number.less first second = true := by
  by_contra hless
  have hle := atMost_of_not_less first second hfirst hsecond (Bool.eq_false_iff.mpr hless)
  have hsub := sub_atMost_sub second second first hsecond hsecond hfirst hle
  have hzero := (same_iff _ _).mp
    ((same_sub_zero_iff second second hsecond hsecond).mpr (same_self hsecond))
  have hnonpos := atMost_trans _ _ _ hsub hzero.1
  rw [((less_iff _ _).mp hpos).2] at hnonpos
  exact Bool.false_ne_true hnonpos

/-- A quantity is farther from those below it than from itself. -/
theorem not_atMost_magnitude_sub_self (hfirst : Number.isFinite first = true)
    (hsecond : Number.isFinite second = true) (hless : Number.less first second = true) :
    Number.atMost (Number.magnitude (second - first)) (Number.magnitude (second - second)) =
      false := by
  obtain ⟨hle, hstrict⟩ := (less_iff _ _).mp hless
  obtain ⟨hself, hselfBack⟩ := (same_iff _ _).mp
    ((same_sub_zero_iff second second hsecond hsecond).mpr (same_self hsecond))
  have hnonneg := atMost_trans _ _ _ hselfBack
    (sub_atMost_sub second first second hsecond hfirst hsecond hle)
  have hmagnitude := (same_iff _ _).mp (magnitude_of_nonneg _ hnonneg)
  have hmagnitudeSelf := (same_iff _ _).mp (magnitude_of_nonneg _ hselfBack)
  rw [Bool.eq_false_iff]
  intro hnearer
  -- A distance of zero would make both quantities equal.
  have hnonpos := atMost_trans _ _ _ hmagnitude.2
    (atMost_trans _ _ _ hnearer (atMost_trans _ _ _ hmagnitudeSelf.1 hself))
  have hequal := (same_sub_zero_iff second first hsecond hfirst).mp
    ((same_iff _ _).mpr ⟨hnonpos, hnonneg⟩)
  rw [((same_iff _ _).mp hequal).1] at hstrict
  exact Bool.false_ne_true hstrict.symm

end LawfulDifference

namespace Grid

open LawfulDifference

/-- The points are in strict order. -/
theorem less_point (grid : Grid α) {first second : Nat} (hlt : first < second)
    (hsecond : second < grid.size) :
    Number.less (grid.point ⟨first, hlt.trans hsecond⟩) (grid.point ⟨second, hsecond⟩) = true := by
  induction second with
  | zero => exact absurd hlt (Nat.not_lt_zero first)
  | succ second ih =>
      have hstep : Number.less (grid.point ⟨second, Nat.lt_of_succ_lt hsecond⟩)
          (grid.point ⟨second + 1, hsecond⟩) = true :=
        less_of_sub_pos (grid.finite_point _) (grid.finite_point _)
          (grid.increasing second hsecond)
      rcases Nat.lt_succ_iff_lt_or_eq.mp hlt with hearlier | hequal
      · exact less_of_less_of_atMost (ih hearlier (Nat.lt_of_succ_lt hsecond))
          (OrderedNumber.atMost_of_less _ _ hstep)
      · subst hequal
        exact hstep

theorem before_point (grid : Grid α) (quantity : α) (index : Fin grid.size) :
    Number.before quantity (grid.point index) = Number.less quantity (grid.point index) := by
  simp [Number.before, same_self (grid.finite_point index)]

/-- What comes after a point comes after those below it. -/
theorem before_point_of_le (grid : Grid α) (quantity : α) {first second : Nat}
    (hle : first ≤ second) (hsecond : second < grid.points.size)
    (hbefore : Number.before grid.points[second] quantity = true) :
    Number.before grid.points[first] quantity = true := by
  rcases Nat.eq_or_lt_of_le hle with hequal | hlt
  · subst hequal
    exact hbefore
  · have hself : Number.same grid.points[first] grid.points[first] = true :=
      same_self (grid.finite first _)
    cases hnumber : Number.same quantity quantity with
    | true =>
        simp only [Number.before, hnumber, Bool.not_true, Bool.false_and, Bool.or_false]
          at hbefore ⊢
        exact less_of_less_of_atMost (grid.less_point hlt hsecond)
          (OrderedNumber.atMost_of_less _ _ hbefore)
    | false => simp [Number.before, hnumber, hself]

/-- The place of a quantity: the points before it come before the quantity, the others do not. -/
theorem insertionIndex_spec (grid : Grid α) (quantity : α) :
    insertionIndex grid.points quantity 0 grid.size ≤ grid.size ∧
      (∀ index (_ : index < insertionIndex grid.points quantity 0 grid.size)
        (_ : index < grid.points.size), Number.before grid.points[index] quantity = true) ∧
      ∀ index (_ : insertionIndex grid.points quantity 0 grid.size ≤ index)
        (_ : index < grid.points.size), Number.before grid.points[index] quantity = false :=
  insertionIndex_separates (fun _ _ => grid.before_point_of_le quantity) (Nat.zero_le grid.size)
    (Nat.le_refl _) (fun _ hnegative _ => absurd hnegative (Nat.not_lt_zero _))
    (fun _ hbeyond hindex => absurd hindex (Nat.not_lt.mpr hbeyond))

/-- The place of a point among the points is its own. -/
theorem insertionIndex_point (grid : Grid α) (index : Fin grid.size) :
    insertionIndex grid.points (grid.point index) 0 grid.size = index.val := by
  obtain ⟨_, hbelow, habove⟩ := grid.insertionIndex_spec (grid.point index)
  apply Nat.le_antisymm
  · by_contra hlater
    have hself := hbelow index (Nat.not_le.mp hlater) index.isLt
    rw [before_point] at hself
    exact Bool.false_ne_true ((not_less_self _).symm.trans hself)
  · by_contra hearlier
    have hplace := Nat.not_le.mp hearlier
    have hself := habove _ (Nat.le_refl _) (hplace.trans index.isLt)
    rw [before_point] at hself
    exact Bool.false_ne_true (hself.symm.trans (grid.less_point hplace index.isLt))

/-- Each point is its own nearest point. -/
theorem nearestIndex_self (grid : Grid α) (index : Fin grid.size) :
    grid.nearestIndex (grid.point index) = index := by
  have hsize := index.isLt
  apply Fin.ext
  simp only [nearestIndex, grid.insertionIndex_point index]
  split
  · next hnearer =>
      by_cases hzero : index.val = 0
      · show min (index.val - 1) (grid.size - 1) = index.val
        omega
      · exfalso
        have hprevious : index.val - 1 < index.val := Nat.sub_lt (by omega) Nat.one_pos
        have hbelow : min (index.val - 1) (grid.size - 1) = index.val - 1 := by omega
        have habove : min index.val (grid.size - 1) = index.val := by omega
        simp only [hbelow, habove] at hnearer
        have hfarther := not_atMost_magnitude_sub_self (grid.finite_point _) (grid.finite_point _)
          (grid.less_point hprevious hsize)
        exact Bool.false_ne_true (hfarther.symm.trans hnearer)
  · show min index.val (grid.size - 1) = index.val
    omega

theorem snap_self_of_mem {grid : Grid α} {state : α} (hmem : state ∈ grid.points) :
    grid.snap state = state := by
  obtain ⟨index, hindex, rfl⟩ := Array.mem_iff_getElem.mp hmem
  exact congrArg grid.point (grid.nearestIndex_self ⟨index, hindex⟩)

end Grid

end Points

open ExactNumber in
/-- Exact differences tell finite quantities apart. -/
theorem ExactDistance.lawfulDifference (K : Type) [Field K] [LinearOrder K]
    [IsStrictOrderedRing K] [ExactDistance α K] : LawfulDifference α where
  toOrderedNumber := (ExactNumber.monotoneNumber K).toOrderedNumber
  less_iff first second := by
    rw [ExactNumber.less_iff (K := K), atMost_iff (K := K), Bool.eq_false_iff, ne_eq,
      atMost_iff (K := K), not_le]
    exact ⟨fun hlt => ⟨hlt.le, hlt⟩, And.right⟩
  same_iff first second := by
    rw [ExactDistance.same_iff (K := K), atMost_iff (K := K), atMost_iff (K := K)]
    exact le_antisymm_iff
  sub_atMost_sub number first second _ _ _ hle := by
    rw [atMost_iff (K := K)] at hle ⊢
    rw [value_sub, value_sub]
    exact sub_le_sub_left hle (value number)
  same_sub_zero_iff first second _ _ := by
    rw [ExactDistance.same_iff (K := K), ExactDistance.same_iff (K := K), value_sub, Number.zero,
      value_ofInt, Int.cast_zero, sub_eq_zero]
  magnitude_of_nonneg number hnonneg := by
    rw [atMost_iff (K := K), Number.zero, value_ofInt, Int.cast_zero] at hnonneg
    rw [ExactDistance.same_iff (K := K), ExactDistance.value_magnitude, abs_of_nonneg hnonneg]

instance : LawfulDifference Rat :=
  ExactDistance.lawfulDifference Rat

instance : LawfulDifference Real :=
  ExactDistance.lawfulDifference Real

end BellmanGrid
