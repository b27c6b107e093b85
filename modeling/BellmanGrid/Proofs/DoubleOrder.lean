import BellmanGrid.Number.Basic
import Mathlib

/-!
The order of doubles is the order of integers.

A double is unpacked into a sign, a significand and an exponent of two.  `position?` counts how many
units of `2 ^ (-1074)` it is away from zero, which is a whole number; the infinities stand just
beyond the last finite double.
-/

namespace BellmanGrid

namespace Double

open Float.Model (UnpackedFloat)
open Float.Model.UnpackedFloat

/-- A significand and an exponent in the one form that a double has for them.  The exponent may be
too large to be stored. -/
structure IsCanonical (significand : Nat) (exponent : Int) : Prop where
  significand_lt : significand < 2 ^ 53
  le_exponent : -1074 ≤ exponent
  leading : exponent = -1074 ∨ 2 ^ 52 ≤ significand

theorem IsCanonical.leading_of_lt {significand : Nat} {exponent : Int}
    (hcanonical : IsCanonical significand exponent) (hlt : -1074 < exponent) :
    2 ^ 52 ≤ significand := by
  cases hcanonical.leading with
  | inl heq => omega
  | inr hle => exact hle

/-- What an unpacked double promises of its significand and exponent. -/
def IsStored : UnpackedFloat → Prop
  | .finite _ significand exponent _ => IsCanonical significand exponent ∧ exponent ≤ 971
  | _ => True

/-- The size of a significand and exponent in units of `2 ^ (-1074)`. -/
def unitsOf (significand : Nat) (exponent : Int) : Nat :=
  significand * 2 ^ (exponent + 1074).toNat

/-- The place of the infinities, that of the first significand with too large an exponent. -/
def infinityUnits : Nat :=
  unitsOf (2 ^ 52) 972

theorem isCanonical_infinity : IsCanonical (2 ^ 52) 972 :=
  ⟨by decide, by decide, Or.inr (Nat.le_refl _)⟩

def position? : UnpackedFloat → Option Int
  | .notANumber => none
  | .infinity sign => some (sign.apply infinityUnits)
  | .zero _ => some 0
  | .finite sign significand exponent _ => some (sign.apply (unitsOf significand exponent))

section Units

variable {significand left right : Nat} {exponent first second : Int}

theorem unitsOf_pos (hpositive : 0 < significand) (exponent : Int) :
    0 < unitsOf significand exponent :=
  Nat.mul_pos hpositive (Nat.two_pow_pos _)

theorem unitsOf_lt_of_exponent_lt (hleft : IsCanonical left first)
    (hright : IsCanonical right second) (hlt : first < second) :
    unitsOf left first < unitsOf right second := by
  have hexponent := hleft.le_exponent
  have hleading : 2 ^ 52 ≤ right := hright.leading_of_lt (by omega)
  have hpower : (first + 1074).toNat + 1 ≤ (second + 1074).toNat := by omega
  calc unitsOf left first
      < 2 ^ 53 * 2 ^ (first + 1074).toNat :=
        Nat.mul_lt_mul_of_pos_right hleft.significand_lt (Nat.two_pow_pos _)
    _ = 2 ^ 52 * 2 ^ ((first + 1074).toNat + 1) := by
        rw [Nat.pow_succ]
        omega
    _ ≤ right * 2 ^ (second + 1074).toNat :=
        Nat.mul_le_mul hleading (Nat.pow_le_pow_right (by decide) hpower)

theorem unitsOf_lt_infinityUnits (hcanonical : IsCanonical significand exponent)
    (hexponent : exponent ≤ 971) : unitsOf significand exponent < infinityUnits :=
  unitsOf_lt_of_exponent_lt hcanonical isCanonical_infinity (by omega)

theorem infinityUnits_le_unitsOf (hcanonical : IsCanonical significand exponent)
    (hexponent : 972 ≤ exponent) : infinityUnits ≤ unitsOf significand exponent := by
  cases Int.lt_or_eq_of_le hexponent with
  | inl hlt => exact Nat.le_of_lt (unitsOf_lt_of_exponent_lt isCanonical_infinity hcanonical hlt)
  | inr heq =>
      subst heq
      exact Nat.mul_le_mul_right _ (hcanonical.leading_of_lt (by decide))

/-- Exponents are compared first and significands second. -/
theorem compare_unitsOf (hleft : IsCanonical left first) (hright : IsCanonical right second) :
    compare (unitsOf left first) (unitsOf right second) =
      (compare first second).then (compare left right) := by
  rcases lt_trichotomy first second with hlt | heq | hgt
  · rw [compare_lt_iff_lt.mpr hlt,
      compare_lt_iff_lt.mpr (unitsOf_lt_of_exponent_lt hleft hright hlt)]
    rfl
  · subst heq
    rw [compare_eq_iff_eq.mpr rfl]
    have hunit : 0 < 2 ^ (first + 1074).toNat := Nat.two_pow_pos _
    rcases lt_trichotomy left right with hlt | heq | hgt
    · have hunits : unitsOf left first < unitsOf right first :=
        Nat.mul_lt_mul_of_pos_right hlt hunit
      rw [compare_lt_iff_lt.mpr hlt, compare_lt_iff_lt.mpr hunits]
      rfl
    · subst heq
      rw [compare_eq_iff_eq.mpr rfl, compare_eq_iff_eq.mpr rfl]
      rfl
    · have hunits : unitsOf right first < unitsOf left first :=
        Nat.mul_lt_mul_of_pos_right hgt hunit
      rw [compare_gt_iff_gt.mpr hgt, compare_gt_iff_gt.mpr hunits]
      rfl
  · rw [compare_gt_iff_gt.mpr hgt,
      compare_gt_iff_gt.mpr (unitsOf_lt_of_exponent_lt hright hleft hgt)]
    rfl

end Units

theorem compare_natCast (left right : Nat) :
    compare (left : Int) (right : Int) = compare left right := by
  simp only [Int.compare_eq_ite_lt, Nat.compare_eq_ite_lt, Int.ofNat_lt]

theorem compare_neg_neg (left right : Int) : compare (-left) (-right) = compare right left := by
  simp only [Int.compare_eq_ite_lt, Int.neg_lt_neg_iff]

theorem some_lt_eq {left right : Int} (hlt : left < right) :
    some Ordering.lt = some (compare left right) := by
  rw [Int.compare_eq_lt.mpr hlt]

theorem some_eq_eq (value : Int) : some Ordering.eq = some (compare value value) := by
  rw [Int.compare_eq_eq.mpr rfl]

theorem some_gt_eq {left right : Int} (hlt : right < left) :
    some Ordering.gt = some (compare left right) := by
  rw [Int.compare_eq_gt.mpr hlt]

theorem apply_bounds (sign : Sign) (units : Nat) :
    -(units : Int) ≤ sign.apply units ∧ sign.apply units ≤ units := by
  cases sign with
  | negative => exact ⟨Int.le_refl _, by simp only [Sign.apply]; omega⟩
  | positive => exact ⟨by simp only [Sign.apply]; omega, Int.le_refl _⟩

/-- Finite doubles compare as their positions do. -/
theorem compare_finite {sign other : Sign} {left right : Nat} {first second : Int}
    (hleft : IsCanonical left first) (hright : IsCanonical right second)
    (hfirst : 0 < left) (hsecond : 0 < right) :
    (UnpackedFloat.finite sign left first hfirst).compare (.finite other right second hsecond) =
      some (compare (sign.apply (unitsOf left first)) (other.apply (unitsOf right second))) := by
  have hleftUnits : 0 < unitsOf left first := unitsOf_pos hfirst first
  have hrightUnits : 0 < unitsOf right second := unitsOf_pos hsecond second
  cases sign with
  | negative =>
      cases other with
      | negative =>
          simp only [UnpackedFloat.compare, Sign.apply]
          rw [compare_neg_neg, compare_natCast, ← compare_unitsOf hleft hright, Nat.compare_swap]
      | positive => exact some_lt_eq (by simp only [Sign.apply]; omega)
  | positive =>
      cases other with
      | negative => exact some_gt_eq (by simp only [Sign.apply]; omega)
      | positive =>
          simp only [UnpackedFloat.compare, Sign.apply]
          rw [compare_natCast, compare_unitsOf hleft hright]

/-- Finite doubles lie between the infinities. -/
theorem position?_bounds {value : UnpackedFloat} (hstored : IsStored value)
    (hfinite : value.isFinite = true) {position : Int}
    (hposition : position? value = some position) :
    -(infinityUnits : Int) < position ∧ position < infinityUnits := by
  cases value with
  | notANumber => cases hfinite
  | infinity sign => cases hfinite
  | zero sign =>
      cases hposition
      have hinfinity : 0 < infinityUnits := unitsOf_pos (by decide) 972
      omega
  | finite sign significand exponent hpositive =>
      cases hposition
      have hunits := unitsOf_lt_infinityUnits hstored.1 hstored.2
      have hbounds := apply_bounds sign (unitsOf significand exponent)
      omega

/-- The infinities compare with finite doubles as their positions do. -/
theorem compare_infinity_finite {value : UnpackedFloat} (hstored : IsStored value)
    (hfinite : value.isFinite = true) {position : Int}
    (hposition : position? value = some position) (sign : Sign) :
    (UnpackedFloat.infinity sign).compare value =
        some (compare (sign.apply infinityUnits) position) ∧
      value.compare (.infinity sign) = some (compare position (sign.apply infinityUnits)) := by
  obtain ⟨hlower, hupper⟩ := position?_bounds hstored hfinite hposition
  cases sign with
  | negative =>
      rw [← some_lt_eq (show Sign.negative.apply infinityUnits < position from hlower),
        ← some_gt_eq (show Sign.negative.apply infinityUnits < position from hlower)]
      cases value with
      | notANumber => cases hfinite
      | infinity other => cases hfinite
      | zero other => exact ⟨rfl, rfl⟩
      | finite other significand exponent hpositive => exact ⟨rfl, rfl⟩
  | positive =>
      rw [← some_gt_eq (show position < Sign.positive.apply infinityUnits from hupper),
        ← some_lt_eq (show position < Sign.positive.apply infinityUnits from hupper)]
      cases value with
      | notANumber => cases hfinite
      | infinity other => cases hfinite
      | zero other => exact ⟨rfl, rfl⟩
      | finite other significand exponent hpositive => exact ⟨rfl, rfl⟩

theorem compare_infinity_infinity (sign other : Sign) :
    (UnpackedFloat.infinity sign).compare (.infinity other) =
      some (compare (sign.apply infinityUnits) (other.apply infinityUnits)) := by
  have hinfinity : 0 < infinityUnits := unitsOf_pos (by decide) 972
  cases sign with
  | negative =>
      cases other with
      | negative => exact some_eq_eq _
      | positive => exact some_lt_eq (by simp only [Sign.apply]; omega)
  | positive =>
      cases other with
      | negative => exact some_gt_eq (by simp only [Sign.apply]; omega)
      | positive => exact some_eq_eq _

/-- Doubles compare as their positions do. -/
theorem compare_of_position? {first second : UnpackedFloat} (hfirst : IsStored first)
    (hsecond : IsStored second) {left right : Int} (hleft : position? first = some left)
    (hright : position? second = some right) :
    first.compare second = some (compare left right) := by
  cases first with
  | notANumber => cases hleft
  | infinity sign =>
      cases hleft
      cases second with
      | notANumber => cases hright
      | infinity other =>
          cases hright
          exact compare_infinity_infinity sign other
      | zero other => exact (compare_infinity_finite hsecond rfl hright sign).1
      | finite other significand exponent hpositive =>
          exact (compare_infinity_finite hsecond rfl hright sign).1
  | zero sign =>
      cases second with
      | notANumber => cases hright
      | infinity other =>
          cases hright
          exact (compare_infinity_finite hfirst rfl hleft other).2
      | zero other =>
          cases hleft
          cases hright
          rfl
      | finite other significand exponent hpositive =>
          cases hleft
          cases hright
          have hunits := unitsOf_pos hpositive exponent
          cases other with
          | negative => exact some_gt_eq (by simp only [Sign.apply]; omega)
          | positive => exact some_lt_eq (by simp only [Sign.apply]; omega)
  | finite sign significand exponent hpositive =>
      cases second with
      | notANumber => cases hright
      | infinity other =>
          cases hright
          exact (compare_infinity_finite hfirst rfl hleft other).2
      | zero other =>
          cases hleft
          cases hright
          have hunits := unitsOf_pos hpositive exponent
          cases sign with
          | negative => exact some_lt_eq (by simp only [Sign.apply]; omega)
          | positive => exact some_gt_eq (by simp only [Sign.apply]; omega)
      | finite other right second hsecondPositive =>
          cases hleft
          cases hright
          exact compare_finite hfirst.1 hsecond.1 hpositive hsecondPositive

theorem eq_notANumber {value : UnpackedFloat} (hnone : position? value = none) :
    value = .notANumber := by
  cases value with
  | notANumber => rfl
  | infinity sign => cases hnone
  | zero sign => cases hnone
  | finite sign significand exponent hpositive => cases hnone

theorem compare_eq_none {first second : UnpackedFloat}
    (hnone : position? first = none ∨ position? second = none) :
    first.compare second = none := by
  rcases hnone with hfirst | hsecond
  · rw [eq_notANumber hfirst]
    rfl
  · rw [eq_notANumber hsecond]
    cases first <;> rfl

theorem le_eq_true_iff {first second : UnpackedFloat} (hfirst : IsStored first)
    (hsecond : IsStored second) :
    first.le second = true ↔
      ∃ left right, position? first = some left ∧ position? second = some right ∧
        left ≤ right := by
  cases hleft : position? first with
  | none => simp [UnpackedFloat.le, compare_eq_none (Or.inl hleft)]
  | some left =>
      cases hright : position? second with
      | none => simp [UnpackedFloat.le, compare_eq_none (Or.inr hright)]
      | some right =>
          simp [UnpackedFloat.le, compare_of_position? hfirst hsecond hleft hright,
            Int.isLE_compare]

theorem lt_eq_true_iff {first second : UnpackedFloat} (hfirst : IsStored first)
    (hsecond : IsStored second) :
    first.lt second = true ↔
      ∃ left right, position? first = some left ∧ position? second = some right ∧
        left < right := by
  cases hleft : position? first with
  | none => simp [UnpackedFloat.lt, compare_eq_none (Or.inl hleft)]
  | some left =>
      cases hright : position? second with
      | none => simp [UnpackedFloat.lt, compare_eq_none (Or.inr hright)]
      | some right =>
          simp [UnpackedFloat.lt, compare_of_position? hfirst hsecond hleft hright,
            Int.compare_eq_lt]

/-- Only one double above the negative infinity is not finite. -/
theorem eq_infinity_of_lt {value : UnpackedFloat} (hfinite : ¬value.isFinite = true)
    {position : Int} (hposition : position? value = some position)
    (hlt : -(infinityUnits : Int) < position) : value = .infinity .positive := by
  cases value with
  | notANumber => cases hposition
  | infinity sign =>
      cases hposition
      cases sign with
      | negative =>
          simp only [Sign.apply] at hlt
          omega
      | positive => rfl
  | zero sign => exact absurd rfl hfinite
  | finite sign significand exponent hpositive => exact absurd rfl hfinite

end Double

end BellmanGrid
