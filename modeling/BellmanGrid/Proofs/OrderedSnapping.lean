import BellmanGrid.Proofs.DoubleSubtraction
import BellmanGrid.Proofs.Tracking

/-!
The nearest point in an arithmetic that rounds differences.

Computed distances of different points may coincide, so the point that the search gives need not be
the nearest one.  It still moves with the quantity: rounded differences keep the order, which is all
that the comparison of the two neighbours needs.
-/

namespace BellmanGrid

/-- The comparisons order whatever equals itself, infinities with the rest; differences keep this
order in both operands, and magnitudes turn it around below zero. -/
class MonotoneDifference (α : Type) [Number α] : Prop extends LawfulDifference α where
  same_of_atMost : ∀ first second : α, Number.atMost first second = true →
    Number.same first first = true ∧ Number.same second second = true
  atMost_of_not_atMost : ∀ first second : α, Number.same first first = true →
    Number.same second second = true → Number.atMost first second = false →
      Number.atMost second first = true
  sub_point_atMost : ∀ first second point : α, Number.isFinite point = true →
    Number.atMost first second = true →
      Number.atMost (first - point) (second - point) = true
  sub_atMost_of_point : ∀ quantity first second : α, Number.same quantity quantity = true →
    Number.isFinite first = true → Number.isFinite second = true →
      Number.atMost first second = true →
        Number.atMost (quantity - second) (quantity - first) = true
  magnitude_of_nonpos : ∀ first second : α, Number.atMost first second = true →
    Number.atMost second Number.zero = true →
      Number.atMost (Number.magnitude second) (Number.magnitude first) = true

namespace Grid

open LawfulDifference MonotoneDifference OrderedNumber

variable {α : Type} [Number α] {grid : Grid α} {quantity other : α}

/-- The distance between a quantity and a point as it is computed. -/
def computedDistance (grid : Grid α) (quantity : α) (index : Fin grid.size) : α :=
  Number.magnitude (quantity - grid.point index)

/-- The place of a quantity among the points. -/
def place (grid : Grid α) (quantity : α) : Nat :=
  insertionIndex grid.points quantity 0 grid.size

section Place

variable [LawfulDifference α]

theorem atMost_point {first second : Fin grid.size} (hle : first ≤ second) :
    Number.atMost (grid.point first) (grid.point second) = true := by
  rcases Nat.eq_or_lt_of_le (Fin.le_def.mp hle) with hequal | hlt
  · rw [Fin.ext hequal]
    exact atMost_refl _ (grid.finite_point second)
  · exact atMost_of_less _ _ (grid.less_point hlt second.isLt)

theorem place_le_size (grid : Grid α) (quantity : α) : grid.place quantity ≤ grid.size :=
  (grid.insertionIndex_spec quantity).1

theorem before_of_lt_place {index : Fin grid.size} (hlt : index.val < grid.place quantity) :
    Number.before (grid.point index) quantity = true :=
  (grid.insertionIndex_spec quantity).2.1 index hlt index.isLt

theorem not_before_of_place_le {index : Fin grid.size} (hle : grid.place quantity ≤ index.val) :
    Number.before (grid.point index) quantity = false :=
  (grid.insertionIndex_spec quantity).2.2 index hle index.isLt

/-- The result is one of the two points around the place. -/
theorem nearestIndex_eq (grid : Grid α) (quantity : α) : ∃ below above : Fin grid.size,
    below.val = grid.place quantity - 1 ∧ above.val = min (grid.place quantity) (grid.size - 1) ∧
      grid.nearestIndex quantity =
        if Number.atMost (grid.computedDistance quantity below)
          (grid.computedDistance quantity above) = true then below else above := by
  have hplace := grid.place_le_size quantity
  exact ⟨_, _, Nat.min_eq_left (Nat.sub_le_sub_right hplace 1), rfl, rfl⟩

/-- What is no number comes after all points. -/
theorem place_of_not_same (hnot : Number.same quantity quantity = false) :
    grid.place quantity = grid.size := by
  by_contra hne
  have hlt : grid.place quantity < grid.size :=
    Nat.lt_of_le_of_ne (grid.place_le_size quantity) hne
  have hafter : Number.before (grid.point ⟨_, hlt⟩) quantity = false :=
    not_before_of_place_le (Nat.le_refl _)
  simp [Number.before, hnot, same_self (grid.finite_point _)] at hafter

theorem nearestIndex_of_not_same (hnot : Number.same quantity quantity = false) :
    (grid.nearestIndex quantity).val = grid.size - 1 := by
  obtain ⟨below, above, hbelow, habove, hresult⟩ := grid.nearestIndex_eq quantity
  rw [place_of_not_same hnot] at hbelow habove
  rw [hresult]
  split
  · exact hbelow
  · omega

end Place

section Order

variable [MonotoneDifference α]

theorem same_point (index : Fin grid.size) :
    Number.same (grid.point index) (grid.point index) = true :=
  same_self (grid.finite_point index)

theorem less_of_lt_place (hnumber : Number.same quantity quantity = true)
    {index : Fin grid.size} (hlt : index.val < grid.place quantity) :
    Number.less (grid.point index) quantity = true := by
  simpa [Number.before, hnumber] using before_of_lt_place hlt

theorem atMost_of_lt_place (hnumber : Number.same quantity quantity = true)
    {index : Fin grid.size} (hlt : index.val < grid.place quantity) :
    Number.atMost (grid.point index) quantity = true :=
  atMost_of_less _ _ (less_of_lt_place hnumber hlt)

theorem atMost_of_place_le (hnumber : Number.same quantity quantity = true)
    {index : Fin grid.size} (hle : grid.place quantity ≤ index.val) :
    Number.atMost quantity (grid.point index) = true := by
  by_contra hnot
  rw [Bool.not_eq_true] at hnot
  have hback := atMost_of_not_atMost _ _ hnumber (same_point index) hnot
  have hless : Number.less (grid.point index) quantity = true := (less_iff _ _).mpr ⟨hback, hnot⟩
  have hafter := not_before_of_place_le hle
  simp [Number.before, hless] at hafter

/-- The place moves with the quantity. -/
theorem place_le_place (hle : Number.atMost quantity other = true) :
    grid.place quantity ≤ grid.place other := by
  obtain ⟨hnumber, hother⟩ := same_of_atMost _ _ hle
  by_contra hlt
  rw [Nat.not_le] at hlt
  let index : Fin grid.size := ⟨grid.place other, hlt.trans_le (grid.place_le_size quantity)⟩
  have hless : Number.less (grid.point index) other = true :=
    less_of_less_of_atMost (less_of_lt_place hnumber hlt) hle
  have hback : Number.atMost other (grid.point index) = true :=
    atMost_of_place_le hother (Nat.le_refl _)
  rw [((less_iff _ _).mp hless).2] at hback
  exact Bool.false_ne_true hback

/-! ### Differences and distances -/

theorem sub_self_atMost_zero (index : Fin grid.size) :
    Number.atMost (grid.point index - grid.point index) Number.zero = true ∧
      Number.atMost Number.zero (grid.point index - grid.point index) = true :=
  (same_iff _ _).mp ((same_sub_zero_iff _ _ (grid.finite_point index)
    (grid.finite_point index)).mpr (same_point index))

theorem zero_atMost_sub {index : Fin grid.size}
    (hle : Number.atMost (grid.point index) quantity = true) :
    Number.atMost Number.zero (quantity - grid.point index) = true :=
  atMost_trans _ _ _ (sub_self_atMost_zero index).2
    (sub_point_atMost _ _ _ (grid.finite_point index) hle)

theorem sub_atMost_zero {index : Fin grid.size}
    (hle : Number.atMost quantity (grid.point index) = true) :
    Number.atMost (quantity - grid.point index) Number.zero = true :=
  atMost_trans _ _ _ (sub_point_atMost _ _ _ (grid.finite_point index) hle)
    (sub_self_atMost_zero index).1

/-- Magnitudes keep the order from zero on. -/
theorem magnitude_atMost_of_nonneg {first second : α}
    (hnonneg : Number.atMost Number.zero first = true)
    (hle : Number.atMost first second = true) :
    Number.atMost (Number.magnitude first) (Number.magnitude second) = true := by
  have hfirst := (same_iff _ _).mp (magnitude_of_nonneg _ hnonneg)
  have hsecond := (same_iff _ _).mp (magnitude_of_nonneg _ (atMost_trans _ _ _ hnonneg hle))
  exact atMost_trans _ _ _ (atMost_trans _ _ _ hfirst.1 hle) hsecond.2

/-- Of the points that are not above the quantity, none is nearer than the highest. -/
theorem computedDistance_atMost_of_below {first second : Fin grid.size} (hle : first ≤ second)
    (hsecond : Number.atMost (grid.point second) quantity = true) :
    Number.atMost (grid.computedDistance quantity second)
      (grid.computedDistance quantity first) = true :=
  magnitude_atMost_of_nonneg (zero_atMost_sub hsecond)
    (sub_atMost_of_point _ _ _ (same_of_atMost _ _ hsecond).2 (grid.finite_point first)
      (grid.finite_point second) (atMost_point hle))

/-- Of the points that are not below the quantity, none is nearer than the lowest. -/
theorem computedDistance_atMost_of_above {first second : Fin grid.size} (hle : first ≤ second)
    (hfirst : Number.atMost quantity (grid.point first) = true) :
    Number.atMost (grid.computedDistance quantity first)
      (grid.computedDistance quantity second) = true :=
  magnitude_of_nonpos _ _
    (sub_atMost_of_point _ _ _ (same_of_atMost _ _ hfirst).1 (grid.finite_point first)
      (grid.finite_point second) (atMost_point hle))
    (sub_atMost_zero hfirst)

theorem same_computedDistance (hnumber : Number.same quantity quantity = true)
    (index : Fin grid.size) :
    Number.same (grid.computedDistance quantity index) (grid.computedDistance quantity index) =
      true := by
  cases hle : Number.atMost quantity (grid.point index) with
  | true =>
      exact (same_of_atMost _ _ (computedDistance_atMost_of_above (Fin.le_refl index) hle)).1
  | false =>
      have hback := atMost_of_not_atMost _ _ hnumber (same_point index) hle
      exact (same_of_atMost _ _ (computedDistance_atMost_of_below (Fin.le_refl index) hback)).1

/-- No point has a smaller computed distance than the one that the search gives. -/
theorem computedDistance_nearestIndex_atMost (hnumber : Number.same quantity quantity = true)
    (index : Fin grid.size) :
    Number.atMost (grid.computedDistance quantity (grid.nearestIndex quantity))
      (grid.computedDistance quantity index) = true := by
  have hplace := grid.place_le_size quantity
  have hpos := grid.size_pos
  obtain ⟨below, above, hbelow, habove, hresult⟩ := grid.nearestIndex_eq quantity
  have hleft (hlt : index.val < grid.place quantity) :
      Number.atMost (grid.computedDistance quantity below)
        (grid.computedDistance quantity index) = true := by
    apply computedDistance_atMost_of_below (Fin.le_def.mpr (by omega))
    exact atMost_of_lt_place hnumber (by omega)
  have hright (hge : grid.place quantity ≤ index.val) :
      Number.atMost (grid.computedDistance quantity above)
        (grid.computedDistance quantity index) = true := by
    have hindex := index.isLt
    apply computedDistance_atMost_of_above (Fin.le_def.mpr (by omega))
    exact atMost_of_place_le hnumber (by omega)
  rw [hresult]
  split
  · next hnearer =>
      rcases Nat.lt_or_ge index.val (grid.place quantity) with hlt | hge
      · exact hleft hlt
      · exact atMost_trans _ _ _ hnearer (hright hge)
  · next hfarther =>
      have hnearer := atMost_of_not_atMost _ _ (same_computedDistance hnumber below)
        (same_computedDistance hnumber above) (Bool.eq_false_iff.mpr hfarther)
      rcases Nat.lt_or_ge index.val (grid.place quantity) with hlt | hge
      · exact atMost_trans _ _ _ hnearer (hleft hlt)
      · exact hright hge

/-- The search keeps the order of quantities. -/
theorem nearestIndex_le_nearestIndex (hle : Number.atMost quantity other = true) :
    grid.nearestIndex quantity ≤ grid.nearestIndex other := by
  obtain ⟨hnumber, hother⟩ := same_of_atMost _ _ hle
  have hplaces : grid.place quantity ≤ grid.place other := place_le_place hle
  have hplace := grid.place_le_size other
  obtain ⟨below, above, hbelow, habove, hresult⟩ := grid.nearestIndex_eq quantity
  obtain ⟨below', above', hbelow', habove', hresult'⟩ := grid.nearestIndex_eq other
  rw [hresult, hresult', Fin.le_def]
  rcases Nat.lt_or_eq_of_le hplaces with hlt | hequal
  · -- Between two places lies a point that no result passes.
    split <;> split <;> omega
  · obtain rfl : below = below' := Fin.ext (by omega)
    obtain rfl : above = above' := Fin.ext (by omega)
    by_cases hinside : 0 < grid.place quantity ∧ grid.place quantity < grid.size
    · have hlow : Number.atMost (grid.point below) quantity = true :=
        atMost_of_lt_place hnumber (by omega)
      have hhigh : Number.atMost other (grid.point above) = true :=
        atMost_of_place_le hother (by omega)
      have hgrows : Number.atMost (grid.computedDistance quantity below)
          (grid.computedDistance other below) = true :=
        magnitude_atMost_of_nonneg (zero_atMost_sub hlow)
          (sub_point_atMost _ _ _ (grid.finite_point below) hle)
      have hshrinks : Number.atMost (grid.computedDistance other above)
          (grid.computedDistance quantity above) = true :=
        magnitude_of_nonpos _ _ (sub_point_atMost _ _ _ (grid.finite_point above) hle)
          (sub_atMost_zero hhigh)
      split
      · split <;> omega
      · next hfarther =>
          rw [if_neg]
          intro hnearer
          exact hfarther (atMost_trans _ _ _ (atMost_trans _ _ _ hgrows hnearer) hshrinks)
    · have hends : below.val = above.val := by omega
      split <;> split <;> omega

/-- Snapping under rounding.  The search gives one of the two points around the place of a quantity.
It keeps the order of quantities, no point has a smaller computed distance, grid points are their
own nearest points, and beyond an end the end is given.  For what is no number it gives the last
point, and there, too, no distance is smaller, unless the one to that point is a number. -/
theorem nearestIndex_monotone (grid : Grid α) :
    (∀ first second, Number.atMost first second = true →
      grid.nearestIndex first ≤ grid.nearestIndex second) ∧
    (∀ quantity, Number.same quantity quantity = true → ∀ index,
      Number.atMost (grid.computedDistance quantity (grid.nearestIndex quantity))
        (grid.computedDistance quantity index) = true) ∧
    (∀ index, grid.nearestIndex (grid.point index) = index) ∧
    (∀ quantity, Number.atMost quantity grid.lower = true →
      (grid.nearestIndex quantity).val = 0) ∧
    (∀ quantity, Number.atMost grid.upper quantity = true →
      (grid.nearestIndex quantity).val = grid.size - 1) ∧
    (∀ quantity, grid.place quantity ≤ grid.size ∧
      ((grid.nearestIndex quantity).val = grid.place quantity - 1 ∨
        (grid.nearestIndex quantity).val = min (grid.place quantity) (grid.size - 1))) ∧
    ∀ quantity, Number.same quantity quantity = false →
      (grid.nearestIndex quantity).val = grid.size - 1 ∧
        (Number.same (grid.computedDistance quantity (grid.nearestIndex quantity))
            (grid.computedDistance quantity (grid.nearestIndex quantity)) = false →
          ∀ index, Number.less (grid.computedDistance quantity index)
            (grid.computedDistance quantity (grid.nearestIndex quantity)) = false) := by
  refine ⟨fun _ _ => nearestIndex_le_nearestIndex, fun _ => computedDistance_nearestIndex_atMost,
    grid.nearestIndex_self, fun quantity hbelow => ?lower, fun quantity habove => ?upper,
    fun quantity => ⟨grid.place_le_size quantity, ?neighbours⟩,
    fun quantity hnot => ⟨nearestIndex_of_not_same hnot, fun hdistance index => ?none⟩⟩
  case lower =>
    have hle : grid.nearestIndex quantity ≤ grid.nearestIndex grid.lower :=
      nearestIndex_le_nearestIndex hbelow
    rw [lower, grid.nearestIndex_self] at hle
    exact Nat.le_zero.mp hle
  case upper =>
    have hle : grid.nearestIndex grid.upper ≤ grid.nearestIndex quantity :=
      nearestIndex_le_nearestIndex habove
    rw [upper, grid.nearestIndex_self] at hle
    exact Nat.le_antisymm (Nat.le_sub_one_of_lt (grid.nearestIndex quantity).isLt) hle
  case neighbours =>
    obtain ⟨below, above, hbelow, habove, hresult⟩ := grid.nearestIndex_eq quantity
    rw [hresult]
    split
    · exact Or.inl hbelow
    · exact Or.inr habove
  case none =>
    rw [Bool.eq_false_iff]
    intro hless
    have hcompared := (same_of_atMost _ _ (atMost_of_less _ _ hless)).2
    rw [hdistance] at hcompared
    cases hcompared

end Order

end Grid

/-! ### Doubles -/

namespace Double

open Float.Model (Format UnpackedFloat)
open Float.Model.UnpackedFloat

/-- The place of the difference of two doubles, the second of them finite: an infinity stays where
it is. -/
def differenceUnits (left right : Int) : Int :=
  if |left| = infinityUnits then left else clampUnits (roundSigned (left - right))

theorem differenceUnits_mono_left {left left' : Int} (hleft : |left| ≤ infinityUnits)
    (hleft' : |left'| ≤ infinityUnits) (hle : left ≤ left') (right : Int) :
    differenceUnits left right ≤ differenceUnits left' right := by
  have hlower := abs_le.mp hleft
  have hupper := abs_le.mp hleft'
  have hrounded : clampUnits (roundSigned (left - right)) ≤
      clampUnits (roundSigned (left' - right)) :=
    clampUnits_mono (roundSigned_mono (Int.sub_le_sub_right hle right))
  have habove := clampUnits_le (roundSigned (left - right))
  have hbelow : -(infinityUnits : Int) ≤ clampUnits (roundSigned (left' - right)) :=
    le_max_left _ _
  simp only [differenceUnits]
  split
  · next hinfinite =>
      rcases abs_choice left with hchoice | hchoice
      · have hsize : |left'| = infinityUnits := by
          rw [abs_of_nonneg (by omega)]
          omega
        rw [if_pos hsize]
        exact hle
      · split <;> omega
  · next hfinite =>
      split
      · next hinfinite =>
          rcases abs_choice left' with hchoice | hchoice
          · omega
          · have hsize : |left| = infinityUnits := by
              rw [abs_of_nonpos (by omega)]
              omega
            exact absurd hsize hfinite
      · exact hrounded

theorem differenceUnits_anti_right {right right' : Int} (hle : right ≤ right') (left : Int) :
    differenceUnits left right' ≤ differenceUnits left right := by
  simp only [differenceUnits]
  split
  · exact Int.le_refl _
  · exact clampUnits_mono (roundSigned_mono (Int.sub_le_sub_left hle left))

theorem abs_floatPosition? {number : Float} {position : Int}
    (hposition : floatPosition? number = some position) : |position| ≤ infinityUnits :=
  abs_le_infinityUnits (isStored_float number) hposition

theorem abs_apply (sign : Sign) (size : Nat) : |sign.apply size| = size := by
  cases sign with
  | negative => rw [Sign.apply, abs_neg, abs_of_nonneg (Int.natCast_nonneg size)]
  | positive => rw [Sign.apply, abs_of_nonneg (Int.natCast_nonneg size)]

/-- Only the infinities are at their places. -/
theorem isFinite_iff_abs_ne {number : Float} {position : Int}
    (hposition : floatPosition? number = some position) :
    Number.isFinite number = true ↔ |position| ≠ infinityUnits := by
  rw [isFinite_iff]
  constructor
  · intro hfinite
    obtain ⟨hlower, hupper⟩ := position?_bounds (isStored_float number) hfinite hposition
    exact (abs_lt.mpr ⟨hlower, hupper⟩).ne
  · intro hne
    rw [floatPosition?] at hposition
    cases hunpacked : number.toModel.unpack with
    | infinity sign =>
        rw [hunpacked] at hposition
        obtain rfl := Option.some.inj hposition
        exact absurd (abs_apply sign infinityUnits) hne
    | notANumber =>
        rw [hunpacked] at hposition
        cases hposition
    | zero sign => rfl
    | finite sign significand exponent hpositive => rfl

theorem floatPosition?_sub_finite {first second : Float} {left right : Int}
    (hsecond : Number.isFinite second = true) (hleft : floatPosition? first = some left)
    (hright : floatPosition? second = some right) :
    floatPosition? (first - second) = some (differenceUnits left right) := by
  rw [differenceUnits]
  split
  · next hinfinite =>
      have hnot : ¬ first.toModel.unpack.isFinite = true := by
        rw [← isFinite_iff, isFinite_iff_abs_ne hleft]
        exact not_not_intro hinfinite
      have hunpacked : (first - second).toModel.unpack =
          unpack Format.binary64 (pack Format.binary64
            (UnpackedFloat.sub Format.binary64 first.toModel.unpack second.toModel.unpack)) := rfl
      rw [isFinite_iff] at hsecond
      rw [floatPosition?] at hleft
      cases hfirst : first.toModel.unpack with
      | infinity sign =>
          have hsub : UnpackedFloat.sub Format.binary64 (.infinity sign) second.toModel.unpack =
              .infinity sign := by
            cases hother : second.toModel.unpack with
            | notANumber => simp [hother, UnpackedFloat.isFinite] at hsecond
            | infinity other => simp [hother, UnpackedFloat.isFinite] at hsecond
            | zero other => rfl
            | finite other significand exponent hpositive => rfl
          rw [floatPosition?, hunpacked, hfirst, hsub, pack, unpack_packedInfinity, ← hleft, hfirst]
      | notANumber =>
          rw [hfirst] at hleft
          cases hleft
      | zero sign => exact absurd (hfirst ▸ rfl) hnot
      | finite sign significand exponent hpositive => exact absurd (hfirst ▸ rfl) hnot
  · next hfinite =>
      exact floatPosition?_sub ((isFinite_iff_abs_ne hleft).mpr hfinite) hsecond hleft hright

theorem same_self_iff (number : Float) :
    Number.same number number = true ↔ ∃ position, floatPosition? number = some position := by
  simp [same_iff_position]

instance : MonotoneDifference Float where
  same_of_atMost first second hle := by
    obtain ⟨left, right, hleft, hright, _⟩ := (atMost_iff first second).mp hle
    exact ⟨(same_self_iff first).mpr ⟨left, hleft⟩, (same_self_iff second).mpr ⟨right, hright⟩⟩
  atMost_of_not_atMost first second hfirst hsecond hnot := by
    obtain ⟨left, hleft⟩ := (same_self_iff first).mp hfirst
    obtain ⟨right, hright⟩ := (same_self_iff second).mp hsecond
    refine (atMost_iff second first).mpr ⟨right, left, hright, hleft, ?_⟩
    by_contra hgt
    rw [(atMost_iff first second).mpr ⟨left, right, hleft, hright, by omega⟩] at hnot
    cases hnot
  sub_point_atMost first second point hpoint hle := by
    obtain ⟨left, right, hleft, hright, hle⟩ := (atMost_iff first second).mp hle
    obtain ⟨place, hplace⟩ := exists_floatPosition? hpoint
    exact (atMost_iff _ _).mpr ⟨_, _, floatPosition?_sub_finite hpoint hleft hplace,
      floatPosition?_sub_finite hpoint hright hplace,
      differenceUnits_mono_left (abs_floatPosition? hleft) (abs_floatPosition? hright) hle place⟩
  sub_atMost_of_point quantity first second hnumber hfirst hsecond hle := by
    obtain ⟨left, right, hleft, hright, hle⟩ := (atMost_iff first second).mp hle
    obtain ⟨place, hplace⟩ := (same_self_iff quantity).mp hnumber
    exact (atMost_iff _ _).mpr ⟨_, _, floatPosition?_sub_finite hsecond hplace hright,
      floatPosition?_sub_finite hfirst hplace hleft, differenceUnits_anti_right hle place⟩
  magnitude_of_nonpos first second hle hnonpos := by
    obtain ⟨left, right, hleft, hright, hle⟩ := (atMost_iff first second).mp hle
    obtain ⟨right', zero, hright', hzero, hbelow⟩ := (atMost_iff second _).mp hnonpos
    obtain rfl : right = right' := Option.some.inj (hright.symm.trans hright')
    obtain rfl : 0 = zero := Option.some.inj (floatPosition?_zero.symm.trans hzero)
    refine (atMost_iff _ _).mpr ⟨_, _, floatPosition?_magnitude hright,
      floatPosition?_magnitude hleft, ?_⟩
    rw [abs_of_nonpos hbelow, abs_of_nonpos (hle.trans hbelow)]
    omega

end Double

/-- On the points minus one, zero and one the infinities snap to the ends, what is no number snaps
to the last point, and the smallest double above zero no lower than the first point. -/
theorem Grid.tracking_nearestIndex_monotone :
    Number.same (0.0 / 0.0 : Float) (0.0 / 0.0) = false ∧
    (Tracking.grid.nearestIndex (-1.0 / 0.0)).val = 0 ∧
    (Tracking.grid.nearestIndex (1.0 / 0.0)).val = 2 ∧
    (Tracking.grid.nearestIndex (0.0 / 0.0)).val = 2 ∧
    Tracking.grid.nearestIndex (-1.0) ≤ Tracking.grid.nearestIndex 5e-324 := by
  have hnot : Number.same (0.0 / 0.0 : Float) (0.0 / 0.0) = false := by decide +kernel
  have hlower : Number.atMost (-1.0 / 0.0) Tracking.grid.lower = true := by decide +kernel
  have hupper : Number.atMost Tracking.grid.upper (1.0 / 0.0) = true := by decide +kernel
  have hle : Number.atMost (-1.0 : Float) 5e-324 = true := by decide +kernel
  obtain ⟨hmonotone, _, _, hbelow, habove, _, hnone⟩ := Grid.nearestIndex_monotone Tracking.grid
  exact ⟨hnot, hbelow _ hlower, habove _ hupper, (hnone _ hnot).1, hmonotone _ _ hle⟩

end BellmanGrid
