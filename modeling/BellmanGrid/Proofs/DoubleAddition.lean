import BellmanGrid.Proofs.DoubleStorage
import BellmanGrid.Proofs.Rounding

/-!
The sum of two doubles is their exact sum, rounded once.

Both summands are whole numbers of `2 ^ (-1074)`, so the exact sum is an integer, and a larger right
summand gives no smaller sum.
-/

namespace BellmanGrid

namespace Double

open Float.Model (Format UnpackedFloat totalExponent)
open Float.Model.UnpackedFloat

/-- What is left of a significand after dropping `shift` bits: the quotient, and in two residual
bits how the remainder compares with a half. -/
structure IsShifted (significand shift : Nat) (extended : ExtendedMantissa) : Prop where
  mantissa_eq : extended.mantissa = significand / 2 ^ shift
  roundBit_iff : extended.roundBit = true ↔ 2 ^ shift ≤ 2 * (significand % 2 ^ shift)
  stickyBit_iff : extended.stickyBit = true ↔
    significand % 2 ^ shift ≠ 0 ∧ 2 * (significand % 2 ^ shift) ≠ 2 ^ shift

theorem IsShifted.shiftRightOne {significand shift : Nat} {extended : ExtendedMantissa}
    (hshifted : IsShifted significand shift extended) :
    IsShifted significand (shift + 1) extended.shiftRightOne := by
  have hpower : 2 ^ (shift + 1) = 2 ^ shift * 2 := pow_succ 2 shift
  have hremainder : significand % 2 ^ shift < 2 ^ shift := Nat.mod_lt _ (Nat.two_pow_pos shift)
  have hsplit : significand % 2 ^ (shift + 1) =
      significand % 2 ^ shift + 2 ^ shift * (significand / 2 ^ shift % 2) := by
    rw [hpower, Nat.mod_mul]
  -- The next bit of the quotient decides whether the new remainder reaches a half.
  have hbit := Nat.mod_two_eq_zero_or_one (significand / 2 ^ shift)
  constructor
  · show extended.mantissa / 2 = _
    rw [hshifted.mantissa_eq, Nat.div_div_eq_div_mul, hpower]
  · show (extended.mantissa % 2 != 0) = true ↔ _
    rw [bne_iff_ne, hshifted.mantissa_eq, hsplit, hpower]
    rcases hbit with heven | hodd
    · rw [heven]
      omega
    · rw [hodd]
      omega
  · show (extended.roundBit || extended.stickyBit) = true ↔ _
    rw [Bool.or_eq_true, hshifted.roundBit_iff, hshifted.stickyBit_iff, hsplit, hpower]
    rcases hbit with heven | hodd
    · rw [heven]
      omega
    · rw [hodd]
      omega

theorem isShifted_shiftRight (significand shift : Nat) :
    IsShifted significand shift
      (ExtendedMantissa.ofMantissaAndAccuracy significand .exact >>> shift) := by
  show IsShifted significand shift
    (shift.repeat ExtendedMantissa.shiftRightOne ⟨significand, false, false⟩)
  induction shift with
  | zero =>
      constructor
      · simp [Nat.repeat]
      · simp [Nat.repeat, Nat.mod_one]
      · simp [Nat.repeat, Nat.mod_one]
  | succ shift ih => exact ih.shiftRightOne

theorem IsShifted.roundedMantissa {significand shift : Nat} {extended : ExtendedMantissa}
    (hshifted : IsShifted significand shift extended) :
    extended.roundedMantissa = roundQuotient significand (2 ^ shift) := by
  obtain ⟨mantissa, roundBit, stickyBit⟩ := extended
  obtain ⟨rfl, hround, hsticky⟩ := hshifted
  simp only at hround hsticky
  have hunit : 0 < 2 ^ shift := Nat.two_pow_pos shift
  simp only [roundQuotient, ExtendedMantissa.roundedMantissa]
  cases roundBit with
  | false =>
      rw [if_pos (by simpa using hround)]
      cases stickyBit <;> rfl
  | true =>
      have hhalf : 2 ^ shift ≤ 2 * (significand % 2 ^ shift) := hround.1 rfl
      rw [if_neg (by omega)]
      cases stickyBit with
      | false =>
          have hexact : 2 * (significand % 2 ^ shift) = 2 ^ shift := by
            by_contra hne
            exact absurd (hsticky.2 ⟨by omega, hne⟩) (by decide)
          rw [if_neg (by omega)]
          rfl
      | true =>
          have hinexact := hsticky.1 rfl
          rw [if_pos (by omega)]
          rfl

/-- The exponent that a double has for a significand and exponent of any size. -/
def storedExponent (significand : Nat) (exponent : Int) : Int :=
  max (significand.log2 + exponent - 52) (-1074)

theorem targetExponent_eq (significand : Nat) (exponent : Int) :
    Format.binary64.targetExponent (totalExponent significand exponent) =
      storedExponent significand exponent := by
  show max ((significand.log2 + 1 + exponent : Int) - (53 : Nat)) (-1074) =
    max (significand.log2 + exponent - 52) (-1074)
  omega

theorem storedExponent_of_isCanonical {significand : Nat} {exponent : Int}
    (hpositive : 0 < significand) (hcanonical : IsCanonical significand exponent) :
    storedExponent significand exponent = exponent := by
  have hlower := hcanonical.le_exponent
  have hlog : significand.log2 < 53 :=
    (Nat.log2_lt (by omega)).2 hcanonical.significand_lt
  simp only [storedExponent]
  cases hcanonical.leading with
  | inl heq => omega
  | inr hle =>
      have hleading : 52 ≤ significand.log2 := (Nat.le_log2 (by omega)).2 hle
      omega

section Rounded

variable {significand shift : Nat} {exponent : Int}

/-- The bits that are dropped leave at most 53. -/
theorem roundQuotient_le_two_pow
    (hshift : storedExponent significand exponent ≤ exponent + shift) :
    roundQuotient significand (2 ^ shift) ≤ 2 ^ 53 := by
  apply roundQuotient_le (Nat.two_pow_pos _)
  simp only [storedExponent] at hshift
  calc significand
      ≤ 2 ^ (significand.log2 + 1) := Nat.le_of_lt Nat.lt_log2_self
    _ ≤ 2 ^ (53 + shift) := Nat.pow_le_pow_right (by decide) (by omega)
    _ = 2 ^ 53 * 2 ^ shift := Nat.pow_add 2 53 shift

/-- At least 53 bits are left, unless the exponent is the least one. -/
theorem two_pow_le_roundQuotient (hpositive : 0 < significand)
    (hshift : exponent + shift = storedExponent significand exponent)
    (hleast : storedExponent significand exponent ≠ -1074) :
    2 ^ 52 ≤ roundQuotient significand (2 ^ shift) := by
  apply le_roundQuotient (Nat.two_pow_pos _)
  simp only [storedExponent] at hshift hleast
  calc 2 ^ 52 * 2 ^ shift
      = 2 ^ (52 + shift) := (Nat.pow_add 2 52 shift).symm
    _ = 2 ^ significand.log2 := by
        congr 1
        omega
    _ ≤ significand := Nat.log2_self_le (by omega)

theorem roundQuotient_pos (hpositive : 0 < significand) (hexponent : -1074 ≤ exponent)
    (hshift : exponent + shift = storedExponent significand exponent) :
    0 < roundQuotient significand (2 ^ shift) := by
  by_cases hleast : storedExponent significand exponent = -1074
  · have hzero : shift = 0 := by omega
    subst hzero
    exact le_roundQuotient (Nat.two_pow_pos _) (by omega)
  · exact Nat.lt_of_lt_of_le (by decide) (two_pow_le_roundQuotient hpositive hshift hleast)

/-- Dropping bits rounds the number of units. -/
theorem unitsOf_roundQuotient (hpositive : 0 < significand) (hexponent : -1074 ≤ exponent)
    (hshift : exponent + shift = storedExponent significand exponent) :
    unitsOf (roundQuotient significand (2 ^ shift)) (exponent + shift) =
      roundUnits (unitsOf significand exponent) := by
  simp only [storedExponent] at hshift
  have hunit : (significand * 2 ^ (exponent + 1074).toNat).log2 - 52 =
      shift + (exponent + 1074).toNat := by
    rw [log2_mul_two_pow (by omega)]
    omega
  have hpower : (exponent + shift + 1074).toNat = shift + (exponent + 1074).toNat := by omega
  simp only [roundUnits, unitsOf]
  rw [hunit, hpower, Nat.pow_add, roundQuotient_mul_mul (Nat.two_pow_pos _)]

end Rounded

theorem shiftToTargetExponent_exact {significand shift : Nat} {exponent : Int}
    (hshift : storedExponent significand exponent - exponent = shift) :
    shiftToTargetExponent Format.binary64 significand exponent .exact =
      (ExtendedMantissa.ofMantissaAndAccuracy significand .exact >>> shift, exponent + shift) := by
  simp only [shiftToTargetExponent, shiftToExponent, targetExponent_eq, hshift, Int.toNat_natCast]

theorem roundWithAccuracy_of_shifts {spec : Format} {sign : Sign} {significand : Nat}
    {exponent middle last : Int} {accuracy : Accuracy} {rounded shifted : ExtendedMantissa}
    (hfirst : shiftToTargetExponent spec significand exponent accuracy = (rounded, middle))
    (hsecond : shiftToTargetExponent spec rounded.roundedMantissa middle .exact =
      (shifted, last))
    (hpositive : 0 < shifted.mantissa) :
    roundWithAccuracy spec sign significand exponent accuracy =
      .finite sign shifted.mantissa last hpositive := by
  simp only [roundWithAccuracy, hfirst, hsecond]
  rw [dif_neg (Nat.ne_of_gt hpositive)]

/-- The second shift only moves a carry: it drops `carry` bits of the rounded significand. -/
theorem roundWithAccuracy_eq {sign : Sign} {significand shift result carry : Nat}
    {exponent : Int} (hshift : storedExponent significand exponent - exponent = shift)
    (hresult : roundQuotient significand (2 ^ shift) = result)
    (hcarry : storedExponent result (exponent + shift) - (exponent + shift) = carry)
    (hpositive : 0 < result / 2 ^ carry) :
    roundWithAccuracy Format.binary64 sign significand exponent .exact =
      .finite sign (result / 2 ^ carry) (exponent + shift + carry) hpositive := by
  have hrounded := (isShifted_shiftRight significand shift).roundedMantissa
  rw [hresult] at hrounded
  have hsecond := shiftToTargetExponent_exact hcarry
  rw [← hrounded] at hsecond
  have hmantissa := (isShifted_shiftRight result carry).mantissa_eq
  rw [← hrounded] at hmantissa hpositive
  rw [← hmantissa] at hpositive
  rw [roundWithAccuracy_of_shifts (shiftToTargetExponent_exact hshift) hsecond hpositive]
  congr 1
  rw [hmantissa, hrounded]

theorem roundWithAccuracy_exact {sign : Sign} {significand : Nat} {exponent : Int}
    (hpositive : 0 < significand) (hexponent : -1074 ≤ exponent)
    (hroom : exponent ≤ storedExponent significand exponent) :
    IsRounded (roundWithAccuracy Format.binary64 sign significand exponent .exact) ∧
    position? (roundWithAccuracy Format.binary64 sign significand exponent .exact) =
      some (sign.apply (roundUnits (unitsOf significand exponent))) := by
  obtain ⟨shift, hshift⟩ := Int.eq_ofNat_of_zero_le (by omega :
    0 ≤ storedExponent significand exponent - exponent)
  have hexact : exponent + shift = storedExponent significand exponent := by omega
  have hnonzero := roundQuotient_pos hpositive hexponent hexact
  have hbound := roundQuotient_le_two_pow (Int.le_of_eq hexact.symm)
  have hunits := unitsOf_roundQuotient hpositive hexponent hexact
  have hleading := two_pow_le_roundQuotient hpositive hexact
  rw [← hexact] at hleading
  rw [← hunits]
  generalize hresult : roundQuotient significand (2 ^ shift) = result
    at hnonzero hbound hleading ⊢
  cases Nat.lt_or_eq_of_le hbound with
  | inl hlt =>
      have hcanonical : IsCanonical result (exponent + shift) :=
        ⟨hlt, by omega, Classical.or_iff_not_imp_left.2 hleading⟩
      have hcarry : storedExponent result (exponent + shift) - (exponent + shift) = (0 : Nat) := by
        rw [storedExponent_of_isCanonical hnonzero hcanonical]
        omega
      rw [roundWithAccuracy_eq hshift hresult hcarry (by simpa using hnonzero)]
      simp only [Nat.pow_zero, Nat.div_one, Int.natCast_zero, Int.add_zero]
      exact ⟨hcanonical, rfl⟩
  | inr heq =>
      subst heq
      have hcarry : storedExponent (2 ^ 53) (exponent + shift) - (exponent + shift) =
          (1 : Nat) := by
        simp only [storedExponent, Nat.log2_two_pow]
        omega
      have hpower : (exponent + shift + (1 : Nat) + 1074).toNat =
          (exponent + shift + 1074).toNat + 1 := by omega
      rw [roundWithAccuracy_eq hshift hresult hcarry (by decide)]
      refine ⟨⟨by decide, by omega, Or.inr (by decide)⟩, ?_⟩
      simp only [position?, unitsOf, hpower]
      congr 3
      rw [Nat.pow_succ]
      omega

theorem decreaseExponent_snd (significand : Nat) (exponent target : Int) :
    (decreaseExponent significand exponent target).2 = min exponent target := by
  simp only [decreaseExponent]
  omega

theorem unitsOf_decreaseExponent (significand : Nat) {exponent target : Int}
    (htarget : -1074 ≤ target) (hexponent : -1074 ≤ exponent) :
    unitsOf (decreaseExponent significand exponent target).1
        (decreaseExponent significand exponent target).2 =
      unitsOf significand exponent := by
  simp only [decreaseExponent, unitsOf, Nat.shiftLeft_eq]
  rw [Nat.mul_assoc, ← Nat.pow_add]
  congr 2
  omega

theorem round_position? (sign : Sign) {significand : Nat} {exponent : Int}
    (hpositive : 0 < significand) (hexponent : -1074 ≤ exponent) :
    IsRounded (UnpackedFloat.round Format.binary64 sign significand exponent) ∧
    position? (UnpackedFloat.round Format.binary64 sign significand exponent) =
      some (sign.apply (roundUnits (unitsOf significand exponent))) := by
  have htarget : -1074 ≤ storedExponent significand exponent := by
    simp only [storedExponent]
    omega
  simp only [UnpackedFloat.round, targetExponent_eq]
  rw [← unitsOf_decreaseExponent significand htarget hexponent]
  apply roundWithAccuracy_exact
  · simp only [decreaseExponent, Nat.shiftLeft_eq]
    positivity
  · rw [decreaseExponent_snd]
    omega
  · simp only [decreaseExponent, Nat.shiftLeft_eq, storedExponent]
    rw [log2_mul_two_pow (by omega)]
    omega

theorem roundSigned_apply (sign : Sign) (units : Nat) :
    roundSigned (sign.apply units) = sign.apply (roundUnits units) := by
  cases sign with
  | negative => simp only [Sign.apply, roundSigned_neg, roundSigned_natCast]
  | positive => simp only [Sign.apply, roundSigned_natCast]

theorem apply_unitsOf (sign : Sign) (significand : Nat) (exponent : Int) :
    sign.apply (unitsOf significand exponent) =
      sign.apply significand * 2 ^ (exponent + 1074).toNat := by
  cases sign with
  | negative => simp [Sign.apply, unitsOf]
  | positive => simp [Sign.apply, unitsOf]

theorem normalize_position? (mantissa : Int) {exponent : Int} (zeroSign : Sign)
    (hexponent : -1074 ≤ exponent) :
    IsRounded (UnpackedFloat.normalize Format.binary64 mantissa exponent zeroSign) ∧
    position? (UnpackedFloat.normalize Format.binary64 mantissa exponent zeroSign) =
      some (roundSigned (mantissa * 2 ^ (exponent + 1074).toNat)) := by
  simp only [UnpackedFloat.normalize]
  rcases lt_trichotomy mantissa 0 with hlt | heq | hgt
  · rw [Int.compare_eq_lt.mpr hlt]
    have hsize : mantissa = Sign.negative.apply (-mantissa).toNat := by
      simp only [Sign.apply]
      omega
    have hround := round_position? .negative (show 0 < (-mantissa).toNat by omega) hexponent
    rw [← roundSigned_apply, apply_unitsOf, ← hsize] at hround
    exact hround
  · subst heq
    refine ⟨trivial, ?_⟩
    rw [Int.zero_mul]
    rfl
  · rw [Int.compare_eq_gt.mpr hgt]
    have hsize : mantissa = Sign.positive.apply mantissa.toNat := by
      simp only [Sign.apply]
      omega
    have hround := round_position? .positive (show 0 < mantissa.toNat by omega) hexponent
    rw [← roundSigned_apply, apply_unitsOf, ← hsize] at hround
    exact hround

/-- A position that a double has is not changed by rounding. -/
theorem roundSigned_unitsOf (sign : Sign) {significand : Nat} {exponent : Int}
    (hcanonical : IsCanonical significand exponent) :
    roundSigned (sign.apply (unitsOf significand exponent)) =
      sign.apply (unitsOf significand exponent) := by
  rw [roundSigned_apply, unitsOf, roundUnits_eq_self hcanonical.significand_lt]

theorem apply_decreaseExponent (sign : Sign) (significand : Nat) {exponent target : Int}
    (htarget : -1074 ≤ target) (hle : target ≤ exponent) :
    sign.apply (decreaseExponent significand exponent target).1 * 2 ^ (target + 1074).toNat =
      sign.apply (unitsOf significand exponent) := by
  have hunits := unitsOf_decreaseExponent significand htarget (htarget.trans hle)
  rw [decreaseExponent_snd, Int.min_eq_right hle] at hunits
  rw [← hunits, apply_unitsOf]

/-- The sum of finite doubles is their exact sum, rounded. -/
theorem add_position? {first second : UnpackedFloat} (hfirst : IsStored first)
    (hsecond : IsStored second) (hfirstFinite : first.isFinite = true)
    (hsecondFinite : second.isFinite = true) {left right : Int}
    (hleft : position? first = some left) (hright : position? second = some right) :
    IsRounded (UnpackedFloat.add Format.binary64 first second) ∧
    position? (UnpackedFloat.add Format.binary64 first second) =
      some (roundSigned (left + right)) := by
  cases first with
  | notANumber => cases hleft
  | infinity sign => cases hfirstFinite
  | zero sign =>
      cases hleft
      cases second with
      | notANumber => cases hright
      | infinity other => cases hsecondFinite
      | zero other =>
          cases hright
          simp only [UnpackedFloat.add]
          split
          · exact ⟨trivial, rfl⟩
          · exact ⟨trivial, rfl⟩
      | finite other significand exponent hpositive =>
          cases hright
          rw [Int.zero_add, roundSigned_unitsOf other hsecond.1]
          exact ⟨hsecond.1, rfl⟩
  | finite sign significand exponent hpositive =>
      cases hleft
      cases second with
      | notANumber => cases hright
      | infinity other => cases hsecondFinite
      | zero other =>
          cases hright
          rw [Int.add_zero, roundSigned_unitsOf sign hfirst.1]
          exact ⟨hfirst.1, rfl⟩
      | finite other significand' exponent' hpositive' =>
          cases hright
          have hexponent := hfirst.1.le_exponent
          have hexponent' := hsecond.1.le_exponent
          have htarget : -1074 ≤ min exponent exponent' := Int.le_min.2 ⟨hexponent, hexponent'⟩
          rw [← apply_decreaseExponent sign significand htarget (Int.min_le_left _ _),
            ← apply_decreaseExponent other significand' htarget (Int.min_le_right _ _),
            ← Int.add_mul]
          exact normalize_position? _ .positive htarget

theorem isFinite_summands {first second : UnpackedFloat}
    (hsum : (UnpackedFloat.add Format.binary64 first second).isFinite = true) :
    first.isFinite = true ∧ second.isFinite = true := by
  cases first with
  | notANumber => cases hsum
  | infinity sign =>
      cases second with
      | infinity other =>
          simp only [UnpackedFloat.add] at hsum
          split at hsum <;> cases hsum
      | notANumber => cases hsum
      | zero other => cases hsum
      | finite other significand exponent hpositive => cases hsum
  | zero sign =>
      cases second with
      | infinity other => cases hsum
      | notANumber => cases hsum
      | zero other => exact ⟨rfl, rfl⟩
      | finite other significand exponent hpositive => exact ⟨rfl, rfl⟩
  | finite sign significand exponent hpositive =>
      cases second with
      | infinity other => cases hsum
      | notANumber => cases hsum
      | zero other => exact ⟨rfl, rfl⟩
      | finite other significand' exponent' hpositive' => exact ⟨rfl, rfl⟩

theorem add_infinity {value : UnpackedFloat} (hfinite : value.isFinite = true) (sign : Sign) :
    UnpackedFloat.add Format.binary64 value (.infinity sign) = .infinity sign := by
  cases value with
  | notANumber => cases hfinite
  | infinity other => cases hfinite
  | zero other => rfl
  | finite other significand exponent hpositive => rfl

end Double

end BellmanGrid
