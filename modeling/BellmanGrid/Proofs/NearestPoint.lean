import BellmanGrid.Grid.Nearest
import BellmanGrid.Proofs.ExactNumber
import BellmanGrid.Proofs.Tracking
import Mathlib.Order.Fin.Basic
import Mathlib.Tactic.Linarith

/-!
The search for the nearest point finds it.

Halving finds the place of a quantity among the points: those before it are below the quantity, and
those from it on are not.  In exact arithmetic the two points around that place are the nearest ones
on their sides, so comparing them gives the nearest point of the whole grid, the lower one if two
points are equally near.  A scan over all points gives the same one.
-/

namespace BellmanGrid

variable {α : Type} [Number α]

/-! ### The place of a quantity -/

/-- The place that halving finds separates the points that come before the quantity from those that
do not, provided that no point comes before it once another has not. -/
theorem insertionIndex_separates {points : Array α} {quantity : α}
    (hsorted : ∀ first second (hle : first ≤ second) (hsecond : second < points.size),
      Number.before points[second] quantity = true → Number.before points[first] quantity = true)
    {low high : Nat} (hle : low ≤ high) (hhigh : high ≤ points.size)
    (hbelow : ∀ index (_ : index < low) (_ : index < points.size),
      Number.before points[index] quantity = true)
    (habove : ∀ index (_ : high ≤ index) (_ : index < points.size),
      Number.before points[index] quantity = false) :
    insertionIndex points quantity low high ≤ points.size ∧
      (∀ index (_ : index < insertionIndex points quantity low high) (_ : index < points.size),
        Number.before points[index] quantity = true) ∧
      ∀ index (_ : insertionIndex points quantity low high ≤ index) (_ : index < points.size),
        Number.before points[index] quantity = false := by
  fun_induction insertionIndex points quantity low high with
  | case1 low high hopen middle hmiddle hbefore ih =>
      apply ih (by omega) hhigh _ habove
      intro index hindex hsize
      exact hsorted index middle (by omega) hmiddle hbefore
  | case2 low high hopen middle hmiddle hbefore ih =>
      apply ih (by omega) (by omega) hbelow
      intro index hindex hsize
      rw [Bool.eq_false_iff]
      exact fun hindexBefore => hbefore (hsorted middle index hindex hsize hindexBefore)
  | case3 low high hopen middle hmiddle => exact absurd hhigh (by omega)
  | case4 low high hclosed =>
      obtain rfl : low = high := by omega
      exact ⟨hhigh, hbelow, habove⟩

namespace Grid

open ExactNumber

variable {K : Type} [Field K] [LinearOrder K] [IsStrictOrderedRing K] [ExactDistance α K]

/-! ### Distances -/

/-- The distance between a point of a grid and a quantity. -/
def distance (K : Type) [Field K] [LinearOrder K] [IsStrictOrderedRing K] [ExactDistance α K]
    (grid : Grid α) (quantity : α) (index : Fin grid.size) : K :=
  |value (grid.point index) - value quantity|

/-- No point is nearer, and every point before is farther away. -/
structure IsNearest (K : Type) [Field K] [LinearOrder K] [IsStrictOrderedRing K]
    [ExactDistance α K] (grid : Grid α) (quantity : α) (index : Fin grid.size) : Prop where
  least : ∀ other, grid.distance K quantity index ≤ grid.distance K quantity other
  first : ∀ other, other < index → grid.distance K quantity index < grid.distance K quantity other

variable {grid : Grid α} {quantity : α}

/-- There is only one nearest point. -/
theorem IsNearest.eq {first second : Fin grid.size} (hfirst : grid.IsNearest K quantity first)
    (hsecond : grid.IsNearest K quantity second) : first = second := by
  rcases lt_trichotomy first second with hlt | hequal | hgt
  · exact absurd (hsecond.first first hlt) (not_lt.mpr (hfirst.least second))
  · exact hequal
  · exact absurd (hfirst.first second hgt) (not_lt.mpr (hsecond.least first))

theorem value_magnitude_sub (index : Fin grid.size) :
    (value (Number.magnitude (quantity - grid.point index)) : K) =
      grid.distance K quantity index := by
  rw [ExactDistance.value_magnitude, value_sub, distance, abs_sub_comm]

theorem value_point_lt {first second : Nat} (hlt : first < second) (hsecond : second < grid.size) :
    (value (grid.point ⟨first, hlt.trans hsecond⟩) : K) <
      value (grid.point ⟨second, hsecond⟩) := by
  induction second with
  | zero => exact absurd hlt (Nat.not_lt_zero first)
  | succ second ih =>
      have hstep := grid.increasing second hsecond
      rw [less_iff (K := K), Number.zero, value_ofInt, value_sub, Int.cast_zero, sub_pos] at hstep
      by_cases hequal : first = second
      · subst hequal
        exact hstep
      · exact (ih (by omega) (by omega)).trans hstep

theorem value_point_le {first second : Fin grid.size} (hle : first ≤ second) :
    (value (grid.point first) : K) ≤ value (grid.point second) := by
  rcases Nat.eq_or_lt_of_le (Fin.le_def.mp hle) with hequal | hlt
  · rw [Fin.ext hequal]
  · exact (value_point_lt hlt second.isLt).le

theorem before_iff (first second : α) :
    Number.before first second = true ↔ (value first : K) < value second := by
  have hsame : Number.same second second = true := (ExactDistance.same_iff (K := K) _ _).mpr rfl
  simp [Number.before, hsame, less_iff (K := K)]

/-- The place of the quantity: the points before it are below, the others are not. -/
theorem insertionIndex_bounds (grid : Grid α) (quantity : α) :
    insertionIndex grid.points quantity 0 grid.size ≤ grid.size ∧
      (∀ index : Fin grid.size, index.val < insertionIndex grid.points quantity 0 grid.size →
        (value (grid.point index) : K) < value quantity) ∧
      ∀ index : Fin grid.size, insertionIndex grid.points quantity 0 grid.size ≤ index.val →
        (value quantity : K) ≤ value (grid.point index) := by
  have hsorted : ∀ first second (hle : first ≤ second) (hsecond : second < grid.points.size),
      Number.before grid.points[second] quantity = true →
        Number.before grid.points[first] quantity = true := by
    intro first second hle hsecond hbefore
    rw [before_iff (K := K)] at hbefore ⊢
    have hpoints : (value (grid.point ⟨first, hle.trans_lt hsecond⟩) : K) ≤
        value (grid.point ⟨second, hsecond⟩) :=
      value_point_le (Fin.mk_le_mk.mpr hle)
    exact hpoints.trans_lt hbefore
  obtain ⟨hsize, hbelow, habove⟩ := insertionIndex_separates hsorted (Nat.zero_le grid.size)
    (Nat.le_refl _) (fun _ hnegative _ => absurd hnegative (Nat.not_lt_zero _))
    (fun _ hbeyond hindex => absurd hindex (Nat.not_lt.mpr hbeyond))
  refine ⟨hsize, ?_, ?_⟩
  · intro index hindex
    exact (before_iff _ _).mp (hbelow index hindex index.isLt)
  · intro index hindex
    have hnot := habove index hindex index.isLt
    rw [Bool.eq_false_iff, ne_eq, before_iff (K := K), not_lt] at hnot
    exact hnot

/-! ### The nearest point -/

/-- Of the points that are not above the quantity, the highest one is the nearest. -/
theorem distance_le_of_le {first second : Fin grid.size} (hle : first ≤ second)
    (hsecond : (value (grid.point second) : K) ≤ value quantity) :
    grid.distance K quantity second ≤ grid.distance K quantity first := by
  have hfirst := value_point_le (K := K) hle
  rw [distance, distance, abs_of_nonpos (by linarith), abs_of_nonpos (by linarith)]
  linarith

theorem distance_lt_of_lt {first second : Fin grid.size} (hlt : first < second)
    (hsecond : (value (grid.point second) : K) ≤ value quantity) :
    grid.distance K quantity second < grid.distance K quantity first := by
  have hfirst : (value (grid.point first) : K) < value (grid.point second) :=
    value_point_lt (Fin.lt_def.mp hlt) second.isLt
  rw [distance, distance, abs_of_nonpos (by linarith), abs_of_nonpos (by linarith)]
  linarith

/-- Of the points that are not below the quantity, the lowest one is the nearest. -/
theorem distance_le_of_ge {first second : Fin grid.size} (hle : first ≤ second)
    (hfirst : (value quantity : K) ≤ value (grid.point first)) :
    grid.distance K quantity first ≤ grid.distance K quantity second := by
  have hsecond := value_point_le (K := K) hle
  rw [distance, distance, abs_of_nonneg (by linarith), abs_of_nonneg (by linarith)]
  linarith

/-- Of the neighbours of a place that separates the points below the quantity from the others, the
nearer one is the nearest point. -/
theorem isNearest_of_neighbours {place : Nat} {below above : Fin grid.size}
    (hbelow : ∀ index : Fin grid.size, index.val < place →
      (value (grid.point index) : K) < value quantity)
    (habove : ∀ index : Fin grid.size, place ≤ index.val →
      (value quantity : K) ≤ value (grid.point index))
    (hlow : below.val = min (place - 1) (grid.size - 1))
    (hhigh : above.val = min place (grid.size - 1)) :
    grid.IsNearest K quantity
      (if grid.distance K quantity below ≤ grid.distance K quantity above then below
        else above) := by
  have hpos := grid.size_pos
  have hleft : ∀ other : Fin grid.size, other.val < place →
      grid.distance K quantity below ≤ grid.distance K quantity other := by
    intro other hother
    have hsize := other.isLt
    exact distance_le_of_le (Fin.le_def.mpr (by omega)) (hbelow below (by omega)).le
  have hright : ∀ other : Fin grid.size, place ≤ other.val →
      grid.distance K quantity above ≤ grid.distance K quantity other := by
    intro other hother
    have hsize := other.isLt
    exact distance_le_of_ge (Fin.le_def.mpr (by omega)) (habove above (by omega))
  split
  · next hnearer =>
      refine ⟨fun other => ?_, fun other hother => ?_⟩
      · by_cases hplace : other.val < place
        · exact hleft other hplace
        · exact hnearer.trans (hright other (not_lt.mp hplace))
      · have hlt := Fin.lt_def.mp hother
        exact distance_lt_of_lt hother (hbelow below (by omega)).le
  · next hfarther =>
      rw [not_le] at hfarther
      refine ⟨fun other => ?_, fun other hother => ?_⟩
      · by_cases hplace : other.val < place
        · exact hfarther.le.trans (hleft other hplace)
        · exact hright other (not_lt.mp hplace)
      · have hlt := Fin.lt_def.mp hother
        exact hfarther.trans_le (hleft other (by omega))

/-- The search gives the nearest point. -/
theorem nearestIndex_isNearest (grid : Grid α) (quantity : α) :
    grid.IsNearest K quantity (grid.nearestIndex quantity) := by
  obtain ⟨_, hbelow, habove⟩ := grid.insertionIndex_bounds (K := K) quantity
  simp only [nearestIndex, atMost_iff (K := K), value_magnitude_sub]
  exact isNearest_of_neighbours hbelow habove rfl rfl

/-- A point of the grid is nearest to itself. -/
theorem isNearest_point (grid : Grid α) (index : Fin grid.size) :
    grid.IsNearest K (grid.point index) index := by
  have hzero : grid.distance K (grid.point index) index = 0 := by simp [distance]
  refine ⟨fun other => ?_, fun other hother => ?_⟩
  · rw [hzero]
    exact abs_nonneg _
  · have hlt : (value (grid.point other) : K) < value (grid.point index) :=
      value_point_lt (Fin.lt_def.mp hother) index.isLt
    rw [hzero]
    exact abs_pos.mpr (sub_neg.mpr hlt).ne

theorem nearestIndex_point (K : Type) [Field K] [LinearOrder K] [IsStrictOrderedRing K]
    [ExactDistance α K] (grid : Grid α) (index : Fin grid.size) :
    grid.nearestIndex (grid.point index) = index :=
  (nearestIndex_isNearest (K := K) grid _).eq (isNearest_point grid index)

theorem snap_of_mem (K : Type) [Field K] [LinearOrder K] [IsStrictOrderedRing K]
    [ExactDistance α K] {grid : Grid α} {state : α} (hmem : state ∈ grid.points) :
    grid.snap state = state := by
  obtain ⟨index, hindex, rfl⟩ := Array.mem_iff_getElem.mp hmem
  exact congrArg grid.point (nearestIndex_point K grid ⟨index, hindex⟩)

/-- Below the grid the lowest point is the nearest. -/
theorem isNearest_zero (hbeyond : (value quantity : K) ≤ value grid.lower) :
    grid.IsNearest K quantity ⟨0, grid.size_pos⟩ :=
  ⟨fun _ => distance_le_of_ge (Fin.le_def.mpr (Nat.zero_le _)) hbeyond,
    fun other hother => absurd (Fin.lt_def.mp hother) (Nat.not_lt_zero other)⟩

/-- Above the grid the highest point is the nearest. -/
theorem isNearest_last (hbeyond : (value grid.upper : K) ≤ value quantity) :
    grid.IsNearest K quantity ⟨grid.size - 1, Nat.sub_lt grid.size_pos Nat.one_pos⟩ :=
  ⟨fun other => distance_le_of_le (Fin.le_def.mpr (Nat.le_sub_one_of_lt other.isLt)) hbeyond,
    fun _ hother => distance_lt_of_lt hother hbeyond⟩

/-! ### The scan -/

/-- The nearest of the first points. -/
structure IsNearestAmong (K : Type) [Field K] [LinearOrder K] [IsStrictOrderedRing K]
    [ExactDistance α K] (grid : Grid α) (quantity : α) (count : Nat) (best : Fin grid.size) :
    Prop where
  among : best.val < count
  least : ∀ other : Fin grid.size, other.val < count →
    grid.distance K quantity best ≤ grid.distance K quantity other
  first : ∀ other, other < best → grid.distance K quantity best < grid.distance K quantity other

namespace IsNearestAmong

variable {count : Nat} {best : Fin grid.size}

theorem isNearest (hamong : grid.IsNearestAmong K quantity grid.size best) :
    grid.IsNearest K quantity best :=
  ⟨fun other => hamong.least other other.isLt, hamong.first⟩

/-- The first point is the nearest as long as there is no other one. -/
theorem one : grid.IsNearestAmong K quantity 1 ⟨0, grid.size_pos⟩ where
  among := Nat.one_pos
  least other hother := by
    rw [show other = ⟨0, grid.size_pos⟩ from Fin.ext (Nat.lt_one_iff.mp hother)]
  first other hother := absurd (Fin.lt_def.mp hother) (Nat.not_lt_zero other)

/-- A point that is nearer than those before it takes their place. -/
theorem succ_of_lt (hamong : grid.IsNearestAmong K quantity count best) (hcount : count < grid.size)
    (hnearer : grid.distance K quantity ⟨count, hcount⟩ < grid.distance K quantity best) :
    grid.IsNearestAmong K quantity (count + 1) ⟨count, hcount⟩ where
  among := Nat.lt_succ_self count
  least other hother := by
    rcases Nat.lt_succ_iff_lt_or_eq.mp hother with hlt | hequal
    · exact hnearer.le.trans (hamong.least other hlt)
    · rw [show other = ⟨count, hcount⟩ from Fin.ext hequal]
  first other hother := hnearer.trans_le (hamong.least other (Fin.lt_def.mp hother))

/-- A point that is not nearer than those before it does not. -/
theorem succ_of_le (hamong : grid.IsNearestAmong K quantity count best) (hcount : count < grid.size)
    (hfarther : grid.distance K quantity best ≤ grid.distance K quantity ⟨count, hcount⟩) :
    grid.IsNearestAmong K quantity (count + 1) best where
  among := Nat.lt_succ_of_lt hamong.among
  least other hother := by
    rcases Nat.lt_succ_iff_lt_or_eq.mp hother with hlt | hequal
    · exact hamong.least other hlt
    · rw [show other = ⟨count, hcount⟩ from Fin.ext hequal]
      exact hfarther
  first := hamong.first

end IsNearestAmong

/-- The scan of one more point compares it with the best one so far. -/
theorem scanNearest_succ {count : Nat} (hcount : count < grid.size) {best : Fin grid.size}
    (hbest : scanNearest grid.points quantity count = best.val) :
    scanNearest grid.points quantity (count + 1) =
      if grid.distance K quantity ⟨count, hcount⟩ < grid.distance K quantity best then count
      else best.val := by
  have hlast : count < grid.points.size := hcount
  have hsize : best.val < grid.points.size := best.isLt
  rw [scanNearest, hbest, Array.getElem?_eq_getElem hlast, Array.getElem?_eq_getElem hsize]
  simp only [less_iff (K := K)]
  rw [← value_magnitude_sub (K := K) best, ← value_magnitude_sub (K := K) ⟨count, hcount⟩]
  rfl

/-- After the first points the scan holds the nearest of them. -/
theorem scanNearest_spec (grid : Grid α) (quantity : α) (count : Nat) (hcount : count < grid.size) :
    ∃ best : Fin grid.size, scanNearest grid.points quantity (count + 1) = best.val ∧
      grid.IsNearestAmong K quantity (count + 1) best := by
  induction count with
  | zero =>
      -- the scan compares the only point so far with itself
      refine ⟨⟨0, hcount⟩, ?_, .one⟩
      have hnone : scanNearest grid.points quantity 0 = (⟨0, hcount⟩ : Fin grid.size).val := rfl
      rw [scanNearest_succ (K := K) hcount hnone, if_neg (lt_irrefl _)]
  | succ count ih =>
      obtain ⟨best, hbest, hamong⟩ := ih (Nat.lt_of_succ_lt hcount)
      rw [scanNearest_succ (K := K) hcount hbest]
      split
      · next hnearer => exact ⟨⟨count + 1, hcount⟩, rfl, hamong.succ_of_lt hcount hnearer⟩
      · next hfarther => exact ⟨best, rfl, hamong.succ_of_le hcount (not_lt.mp hfarther)⟩

/-- The scan gives the nearest point. -/
theorem scanNearest_eq_nearestIndex (K : Type) [Field K] [LinearOrder K] [IsStrictOrderedRing K]
    [ExactDistance α K] (grid : Grid α) (quantity : α) :
    scanNearest grid.points quantity grid.size = (grid.nearestIndex quantity).val := by
  have hsize : grid.size - 1 + 1 = grid.size := Nat.sub_add_cancel grid.size_pos
  obtain ⟨best, hbest, hamong⟩ := grid.scanNearest_spec (K := K) quantity (grid.size - 1)
    (Nat.sub_lt grid.size_pos Nat.one_pos)
  rw [hsize] at hbest hamong
  rw [hbest, hamong.isNearest.eq (grid.nearestIndex_isNearest quantity)]

/-- The search by halving is a lookup of the nearest point: its index is the one at the smallest
distance, the lowest of them when two points are equally near, and the one that a scan of all points
finds.  Grid points are their own nearest points, and beyond an end the end is the nearest. -/
theorem nearestIndex_eq_iff_isNearest (K : Type) [Field K] [LinearOrder K] [IsStrictOrderedRing K]
    [ExactDistance α K] (grid : Grid α) (quantity : α) :
    (∀ index, grid.nearestIndex quantity = index ↔
      (∀ other, |(value (grid.point index) : K) - value quantity| ≤
        |(value (grid.point other) : K) - value quantity|) ∧
      ∀ other, other < index →
        |(value (grid.point index) : K) - value quantity| <
          |(value (grid.point other) : K) - value quantity|) ∧
    (grid.nearestIndex quantity).val = scanNearest grid.points quantity grid.size ∧
    (∀ index, grid.nearestIndex (grid.point index) = index) ∧
    grid.snap (grid.snap quantity) = grid.snap quantity ∧
    ((value quantity : K) ≤ value grid.lower → grid.snap quantity = grid.lower) ∧
    ((value grid.upper : K) ≤ value quantity → grid.snap quantity = grid.upper) := by
  have hnearest := grid.nearestIndex_isNearest (K := K) quantity
  refine ⟨fun index => ⟨?_, ?_⟩, (scanNearest_eq_nearestIndex K grid quantity).symm,
    nearestIndex_point K grid, ?_, ?_, ?_⟩
  · rintro rfl
    exact ⟨hnearest.least, hnearest.first⟩
  · rintro ⟨hleast, hfirst⟩
    exact hnearest.eq ⟨hleast, hfirst⟩
  · rw [snap, snap, nearestIndex_point K]
  · intro hbeyond
    rw [snap, hnearest.eq (isNearest_zero hbeyond)]
    rfl
  · intro hbeyond
    rw [snap, hnearest.eq (isNearest_last hbeyond)]
    rfl

/-- Halfway between two points the lower one is the nearest, and far beyond the grid its end. -/
theorem nearestIndex_of_midpoint :
    Tracking.rationalGrid.nearestIndex (1 / 2) = ⟨1, by decide⟩ ∧
      Tracking.rationalGrid.snap 7 = Tracking.rationalGrid.upper := by
  constructor
  · apply ((nearestIndex_eq_iff_isNearest Rat Tracking.rationalGrid (1 / 2)).1 ⟨1, by decide⟩).mpr
    constructor
    · decide +kernel
    · decide +kernel
  · obtain ⟨_, _, _, _, _, hbeyond⟩ :=
      nearestIndex_eq_iff_isNearest Rat Tracking.rationalGrid 7
    apply hbeyond
    decide +kernel

end Grid

end BellmanGrid
