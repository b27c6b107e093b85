import BellmanGrid.Proofs.DifferenceLaws
import BellmanGrid.Proofs.FloatLaws

/-!
The difference of two doubles is their exact difference, rounded once.

Subtracting is adding the opposite, and positions are whole numbers, so a difference is rounded to
zero only when it is zero.
-/

namespace BellmanGrid

theorem roundSigned_eq_zero_iff {units : Int} : roundSigned units = 0 ↔ units = 0 := by
  constructor
  · intro hzero
    by_contra hne
    have hleading : 2 ^ units.natAbs.log2 ≤ roundUnits units.natAbs :=
      two_pow_log2_le_roundUnits (Int.natAbs_ne_zero.mpr hne)
    have hpos := Nat.two_pow_pos units.natAbs.log2
    rcases Int.mul_eq_zero.mp hzero with hsign | hunits
    · exact hne (Int.sign_eq_zero_iff_zero.mp hsign)
    · omega
  · rintro rfl
    rfl

namespace Double

open Float.Model (Format UnpackedFloat)
open Float.Model.UnpackedFloat

theorem clampUnits_eq_zero_iff {position : Int} : clampUnits position = 0 ↔ position = 0 := by
  have hinfinity : 0 < infinityUnits := unitsOf_pos (by decide) 972
  simp only [clampUnits]
  omega

/-! ### Opposites and magnitudes -/

theorem apply_neg (sign : Sign) (units : Int) : (-sign).apply units = -sign.apply units := by
  cases sign with
  | negative => exact (Int.neg_neg units).symm
  | positive => rfl

theorem isStored_neg {value : UnpackedFloat} (hstored : IsStored value) : IsStored value.neg := by
  cases value <;> exact hstored

theorem isFinite_neg {value : UnpackedFloat} (hfinite : value.isFinite = true) :
    value.neg.isFinite = true := by
  cases value <;> exact hfinite

theorem position?_neg {value : UnpackedFloat} {position : Int}
    (hposition : position? value = some position) : position? value.neg = some (-position) := by
  cases value with
  | notANumber => cases hposition
  | zero sign =>
      cases hposition
      rfl
  | infinity sign =>
      cases hposition
      exact congrArg some (apply_neg sign _)
  | finite sign significand exponent hpositive =>
      cases hposition
      exact congrArg some (apply_neg sign _)

theorem sub_eq_add_neg (format : Format) (first second : UnpackedFloat) :
    UnpackedFloat.sub format first second = UnpackedFloat.add format first second.neg := by
  cases first with
  | notANumber => rfl
  | zero sign => cases second <;> rfl
  | infinity sign => cases second <;> rfl
  | finite sign significand exponent hpositive =>
      cases second with
      | finite other significand' exponent' hpositive' =>
          simp only [UnpackedFloat.sub, UnpackedFloat.add, UnpackedFloat.neg, apply_neg,
            Int.sub_eq_add_neg]
      | _ => rfl

/-- The difference of finite doubles is their exact difference, rounded. -/
theorem sub_position? {first second : UnpackedFloat} (hfirst : IsStored first)
    (hsecond : IsStored second) (hfirstFinite : first.isFinite = true)
    (hsecondFinite : second.isFinite = true) {left right : Int}
    (hleft : position? first = some left) (hright : position? second = some right) :
    IsRounded (UnpackedFloat.sub Format.binary64 first second) ∧
    position? (UnpackedFloat.sub Format.binary64 first second) =
      some (roundSigned (left - right)) := by
  rw [sub_eq_add_neg, Int.sub_eq_add_neg]
  exact add_position? hfirst (isStored_neg hsecond) hfirstFinite (isFinite_neg hsecondFinite) hleft
    (position?_neg hright)

theorem abs_position? {value : UnpackedFloat} (hstored : IsStored value) {position : Int}
    (hposition : position? value = some position) :
    IsRounded value.abs ∧ position? value.abs = some |position| := by
  have hsize : ∀ (sign : Sign) (units : Nat), |sign.apply units| = (units : Int) := by
    intro sign units
    cases sign with
    | negative => exact (abs_neg _).trans (abs_of_nonneg (Int.natCast_nonneg units))
    | positive => exact abs_of_nonneg (Int.natCast_nonneg units)
  cases value with
  | notANumber => cases hposition
  | zero sign =>
      cases hposition
      exact ⟨trivial, rfl⟩
  | infinity sign =>
      cases hposition
      exact ⟨trivial, congrArg some (hsize sign _).symm⟩
  | finite sign significand exponent hpositive =>
      cases hposition
      exact ⟨hstored.1, congrArg some (hsize sign _).symm⟩

/-- No position is beyond those of the infinities. -/
theorem abs_le_infinityUnits {value : UnpackedFloat} (hstored : IsStored value) {position : Int}
    (hposition : position? value = some position) : |position| ≤ infinityUnits := by
  by_cases hfinite : value.isFinite = true
  · obtain ⟨hlower, hupper⟩ := position?_bounds hstored hfinite hposition
    exact (abs_lt.mpr ⟨hlower, hupper⟩).le
  · cases value with
    | notANumber => cases hposition
    | infinity sign =>
        cases hposition
        exact abs_le.mpr (apply_bounds sign infinityUnits)
    | zero sign => exact absurd rfl hfinite
    | finite sign significand exponent hpositive => exact absurd rfl hfinite

/-! ### Doubles -/

section Floats

variable {first second : Float} {left right : Int}

theorem floatPosition?_zero : floatPosition? (Number.zero : Float) = some 0 := by
  decide +kernel

/-- Differences of finite doubles are placed like the exact differences of their places. -/
theorem floatPosition?_sub (hfirst : Number.isFinite first = true)
    (hsecond : Number.isFinite second = true) (hleft : floatPosition? first = some left)
    (hright : floatPosition? second = some right) :
    floatPosition? (first - second) = some (clampUnits (roundSigned (left - right))) := by
  rw [isFinite_iff] at hfirst hsecond
  obtain ⟨hrounded, hposition⟩ :=
    sub_position? (isStored_float first) (isStored_float second) hfirst hsecond hleft hright
  have hunpacked : (first - second).toModel.unpack =
      unpack Format.binary64 (pack Format.binary64
        (UnpackedFloat.sub Format.binary64 first.toModel.unpack second.toModel.unpack)) := rfl
  rw [floatPosition?, hunpacked, position?_unpack_pack hrounded, hposition]
  rfl

/-- Magnitudes are exact. -/
theorem floatPosition?_magnitude (hleft : floatPosition? first = some left) :
    floatPosition? (Number.magnitude first) = some |left| := by
  obtain ⟨hrounded, hposition⟩ := abs_position? (isStored_float first) hleft
  have hunpacked : (Number.magnitude first).toModel.unpack =
      unpack Format.binary64 (pack Format.binary64 first.toModel.unpack.abs) := rfl
  have hbound := abs_le_infinityUnits (isStored_float first) hleft
  have hclamped : clampUnits |left| = |left| :=
    clampUnits_of_bounds (by have := abs_nonneg left; omega) hbound
  rw [floatPosition?, hunpacked, position?_unpack_pack hrounded, hposition, Option.map_some,
    hclamped]

/-- Doubles are the same when they are at the same place. -/
theorem same_iff_position (first second : Float) :
    Number.same first second = true ↔
      ∃ position, floatPosition? first = some position ∧ floatPosition? second = some position := by
  show (first.toModel.unpack.compare second.toModel.unpack == some Ordering.eq) = true ↔ _
  rw [beq_iff_eq]
  cases hleft : floatPosition? first with
  | none => simp [compare_eq_none (Or.inl hleft)]
  | some left =>
      cases hright : floatPosition? second with
      | none => simp [compare_eq_none (Or.inr hright)]
      | some right =>
          rw [compare_of_position? (isStored_float first) (isStored_float second) hleft hright,
            Option.some.injEq, Int.compare_eq_eq]
          simp [eq_comm]

theorem same_iff_of_position (hleft : floatPosition? first = some left)
    (hright : floatPosition? second = some right) :
    Number.same first second = true ↔ left = right := by
  rw [same_iff_position, hleft, hright]
  simp [eq_comm]

end Floats

instance : LawfulDifference Float where
  less_iff first second := by
    rw [Bool.eq_false_iff, ne_eq, less_iff, atMost_iff, atMost_iff]
    constructor
    · rintro ⟨left, right, hleft, hright, hlt⟩
      refine ⟨⟨left, right, hleft, hright, hlt.le⟩, ?_⟩
      rintro ⟨right', left', hright', hleft', hle⟩
      obtain rfl : left = left' := Option.some.inj (hleft.symm.trans hleft')
      obtain rfl : right = right' := Option.some.inj (hright.symm.trans hright')
      omega
    · rintro ⟨⟨left, right, hleft, hright, hle⟩, hnot⟩
      refine ⟨left, right, hleft, hright, ?_⟩
      by_contra hge
      exact hnot ⟨right, left, hright, hleft, by omega⟩
  same_iff first second := by
    rw [same_iff_position, atMost_iff, atMost_iff]
    constructor
    · rintro ⟨position, hfirst, hsecond⟩
      exact ⟨⟨position, position, hfirst, hsecond, Int.le_refl _⟩,
        position, position, hsecond, hfirst, Int.le_refl _⟩
    · rintro ⟨⟨left, right, hleft, hright, hle⟩, right', left', hright', hleft', hge⟩
      obtain rfl : left = left' := Option.some.inj (hleft.symm.trans hleft')
      obtain rfl : right = right' := Option.some.inj (hright.symm.trans hright')
      obtain rfl : left = right := by omega
      exact ⟨left, hleft, hright⟩
  sub_atMost_sub value first second hvalue hfirst hsecond hle := by
    obtain ⟨left, right, hleft, hright, hle⟩ := (atMost_iff first second).1 hle
    obtain ⟨start, hstart⟩ := exists_floatPosition? hvalue
    refine (atMost_iff _ _).2 ⟨_, _, floatPosition?_sub hvalue hsecond hstart hright,
      floatPosition?_sub hvalue hfirst hstart hleft, ?_⟩
    exact clampUnits_mono (roundSigned_mono (Int.sub_le_sub_left hle start))
  same_sub_zero_iff first second hfirst hsecond := by
    obtain ⟨left, hleft⟩ := exists_floatPosition? hfirst
    obtain ⟨right, hright⟩ := exists_floatPosition? hsecond
    have hdifference := floatPosition?_sub hfirst hsecond hleft hright
    rw [same_iff_of_position hdifference floatPosition?_zero, same_iff_of_position hleft hright,
      clampUnits_eq_zero_iff, roundSigned_eq_zero_iff, Int.sub_eq_zero]
  magnitude_of_nonneg value hnonneg := by
    obtain ⟨zero, position, hzero, hposition, hle⟩ := (atMost_iff _ _).1 hnonneg
    obtain rfl : 0 = zero := Option.some.inj (floatPosition?_zero.symm.trans hzero)
    refine (same_iff_position _ _).2 ⟨position, ?_, hposition⟩
    rw [floatPosition?_magnitude hposition, abs_of_nonneg hle]

end Double

end BellmanGrid
