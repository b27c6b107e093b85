import BellmanGrid.Proofs.DoubleOrder

/-!
A double that is stored and taken out again keeps its position, unless its exponent is too large.
-/

namespace BellmanGrid

namespace Double

open Float.Model (Format UnpackedFloat)
open Float.Model.UnpackedFloat

/-- What rounding promises of a significand and exponent; the exponent may not fit a word. -/
def IsRounded : UnpackedFloat → Prop
  | .finite _ significand exponent _ => IsCanonical significand exponent
  | _ => True

/-- A position beyond the infinities is moved back to them. -/
def clampUnits (position : Int) : Int :=
  max (-infinityUnits) (min position infinityUnits)

theorem clampUnits_mono {first second : Int} (hle : first ≤ second) :
    clampUnits first ≤ clampUnits second :=
  max_le_max (Int.le_refl _) (min_le_min hle (Int.le_refl _))

theorem clampUnits_le (position : Int) : clampUnits position ≤ infinityUnits := by
  simp only [clampUnits]
  omega

theorem clampUnits_of_bounds {position : Int} (hlower : -(infinityUnits : Int) ≤ position)
    (hupper : position ≤ infinityUnits) : clampUnits position = position := by
  simp only [clampUnits]
  omega

theorem clampUnits_apply_of_le (sign : Sign) {units : Nat} (hle : infinityUnits ≤ units) :
    clampUnits (sign.apply units) = sign.apply infinityUnits := by
  cases sign with
  | negative =>
      simp only [clampUnits, Sign.apply]
      omega
  | positive =>
      simp only [clampUnits, Sign.apply]
      omega

theorem toNat_ne_of_ne_neg_one {field : BitVec 11} (hne : field ≠ -1#11) :
    field.toNat ≠ 2047 := by
  intro heq
  exact hne (BitVec.eq_of_toNat_eq heq)

theorem toNat_implicit_append (mantissa : BitVec 52) :
    (1#1 ++ mantissa).toNat = mantissa.toNat + 2 ^ 52 := by
  rw [BitVec.toNat_append]
  have hlt := mantissa.isLt
  show 1 <<< 52 ||| mantissa.toNat = mantissa.toNat + 2 ^ 52
  rw [Nat.shiftLeft_eq, Nat.one_mul, Nat.or_comm, Nat.or_two_pow_eq_add_of_lt hlt]

theorem isStored_unpack (word : BitVec Format.binary64.numBits) :
    IsStored (unpack Format.binary64 word) := by
  have hmantissa : (unpackMantissa word).toNat < 2 ^ 52 := (unpackMantissa word).isLt
  have hexponent : (unpackExponent word).toNat < 2048 := (unpackExponent word).isLt
  have hbias : (Format.binary64.exponentBias : Int) = 1023 := rfl
  simp only [unpack]
  split
  · split <;> trivial
  · rename_i hfinite
    have hfinite := toNat_ne_of_ne_neg_one hfinite
    split
    · rename_i hzero
      split
      · trivial
      · have hzero : (unpackExponent word).toNat = 0 := congrArg BitVec.toNat hzero
        refine ⟨⟨by omega, ?_, Or.inl ?_⟩, ?_⟩
        all_goals
          rw [hzero, hbias]
          decide
    · rename_i hnormal
      have hnormal : (unpackExponent word).toNat ≠ 0 := by
        intro heq
        exact hnormal (BitVec.eq_of_toNat_eq heq)
      have hleading := toNat_implicit_append (unpackMantissa word)
      refine ⟨⟨?_, ?_, Or.inr ?_⟩, ?_⟩
      · show (1#1 ++ unpackMantissa word).toNat < 2 ^ 53
        omega
      · rw [hbias]
        show -1074 ≤ ((unpackExponent word).toNat : Int) - (1023 + (52 : Nat))
        omega
      · show 2 ^ 52 ≤ (1#1 ++ unpackMantissa word).toNat
        omega
      · rw [hbias]
        show ((unpackExponent word).toNat : Int) - (1023 + (52 : Nat)) ≤ 971
        omega

theorem unpack_packedInfinity (sign : Sign) :
    unpack Format.binary64 (packedInfinity Format.binary64 sign) = .infinity sign := by
  simp [unpack, packedInfinity]

theorem unpack_normal (sign : Sign) {field : BitVec 11} (mantissa : BitVec 52)
    (hfield : field.toNat ≠ 0) (hfinite : field.toNat ≠ 2047) :
    unpack Format.binary64 (packComponents Format.binary64 sign field mantissa) =
      .finite sign (mantissa.toNat + 2 ^ 52) (field.toNat - 1075) (by omega) := by
  have hbias : (Format.binary64.exponentBias : Int) = 1023 := rfl
  have hnotLast : field ≠ -1#11 := by
    intro heq
    exact hfinite (congrArg BitVec.toNat heq)
  have hnotFirst : field ≠ 0#11 := by
    intro heq
    exact hfield (congrArg BitVec.toNat heq)
  simp only [unpack, unpackExponent_packComponents, unpackMantissa_packComponents,
    unpackSign_packComponents, Sign.ofBitVec_toBitVec, hbias]
  rw [if_neg hnotLast, if_neg hnotFirst]
  congr 1
  exact toNat_implicit_append mantissa

theorem unpack_subnormal (sign : Sign) {mantissa : BitVec 52} (hmantissa : 0 < mantissa.toNat) :
    unpack Format.binary64 (packComponents Format.binary64 sign 0#11 mantissa) =
      .finite sign mantissa.toNat (-1074) hmantissa := by
  have hmantissaNonzero : mantissa ≠ 0#52 := by
    intro heq
    rw [heq] at hmantissa
    exact absurd hmantissa (by decide)
  simp only [unpack, unpackExponent_packComponents, unpackMantissa_packComponents,
    unpackSign_packComponents, Sign.ofBitVec_toBitVec]
  rw [if_neg (by decide), if_pos trivial, dif_neg hmantissaNonzero]
  congr 1

/-- A significand and exponent that fit a word are taken out as they were stored. -/
theorem unpack_pack_of_le {sign : Sign} {significand : Nat} {exponent : Int}
    (hpositive : 0 < significand) (hcanonical : IsCanonical significand exponent)
    (hexponent : exponent ≤ 971) :
    unpack Format.binary64
        (pack Format.binary64 (.finite sign significand exponent hpositive)) =
      .finite sign significand exponent hpositive := by
  have hbias : (Format.binary64.exponentBias : Int) = 1023 := rfl
  have hlower := hcanonical.le_exponent
  have hupper := hcanonical.significand_lt
  have hfield : (exponent + 1023 + (52 : Nat)).toNat = (exponent + 1075).toNat := by omega
  simp only [pack, hbias, hfield]
  rw [if_neg (show ¬2 ^ 11 ≤ (exponent + 1075).toNat + 1 by omega)]
  by_cases hnormal : 2 ^ 52 ≤ significand
  · have hlog : significand.log2 = 52 := (Nat.log2_eq_iff (by omega)).2 ⟨hnormal, hupper⟩
    have hfieldNat : (BitVec.ofNat 11 (exponent + 1075).toNat).toNat =
        (exponent + 1075).toNat := Nat.mod_eq_of_lt (by omega)
    have hmantissaNat : (BitVec.ofNat 52 significand).toNat + 2 ^ 52 = significand := by
      show significand % 2 ^ 52 + 2 ^ 52 = significand
      omega
    rw [if_pos (by rw [hlog]; rfl)]
    rw [unpack_normal _ _ (by omega) (by omega)]
    simp only [hfieldNat, hmantissaNat]
    congr 1
    omega
  · have hlog : significand.log2 < 52 := (Nat.log2_lt (by omega)).2 (by omega)
    have hmantissaNat : (BitVec.ofNat 52 significand).toNat = significand :=
      Nat.mod_eq_of_lt (by omega)
    have hexponentEq : exponent = -1074 := by
      cases hcanonical.leading with
      | inl heq => exact heq
      | inr hle => omega
    subst hexponentEq
    rw [if_neg (show ¬significand.log2 + 1 = Format.binary64.mantissaBits by
      show ¬significand.log2 + 1 = 53
      omega)]
    rw [unpack_subnormal _ (by omega)]
    simp only [hmantissaNat]

theorem unpack_pack_of_ge {sign : Sign} {significand : Nat} {exponent : Int}
    (hpositive : 0 < significand) (hexponent : 972 ≤ exponent) :
    unpack Format.binary64
        (pack Format.binary64 (.finite sign significand exponent hpositive)) =
      .infinity sign := by
  have hbias : (Format.binary64.exponentBias : Int) = 1023 := rfl
  simp only [pack, hbias]
  rw [if_pos, unpack_packedInfinity]
  show 2 ^ 11 ≤ (exponent + 1023 + (52 : Nat)).toNat + 1
  omega

/-- Storing a rounded result keeps its position, up to the infinities. -/
theorem position?_unpack_pack {value : UnpackedFloat} (hrounded : IsRounded value) :
    position? (unpack Format.binary64 (pack Format.binary64 value)) =
      (position? value).map clampUnits := by
  cases value with
  | notANumber =>
      rw [pack, unpack_packedNaN]
      rfl
  | infinity sign =>
      rw [pack, unpack_packedInfinity]
      have hbounds := apply_bounds sign infinityUnits
      exact congrArg some (clampUnits_of_bounds hbounds.1 hbounds.2).symm
  | zero sign =>
      rw [pack, unpack_packedZero]
      exact congrArg some (clampUnits_of_bounds (by omega) (by omega)).symm
  | finite sign significand exponent hpositive =>
      by_cases hexponent : exponent ≤ 971
      · rw [unpack_pack_of_le hpositive hrounded hexponent]
        have hunits := unitsOf_lt_infinityUnits hrounded hexponent
        have hbounds := apply_bounds sign (unitsOf significand exponent)
        exact congrArg some (clampUnits_of_bounds (by omega) (by omega)).symm
      · rw [unpack_pack_of_ge hpositive (by omega)]
        have hunits := infinityUnits_le_unitsOf hrounded (by omega)
        exact congrArg some (clampUnits_apply_of_le sign hunits).symm

theorem isFinite_of_unpack_pack {value : UnpackedFloat}
    (hfinite : (unpack Format.binary64 (pack Format.binary64 value)).isFinite = true) :
    value.isFinite = true := by
  cases value with
  | notANumber =>
      rw [pack, unpack_packedNaN] at hfinite
      exact hfinite
  | infinity sign =>
      rw [pack, unpack_packedInfinity] at hfinite
      exact hfinite
  | zero sign => rfl
  | finite sign significand exponent hpositive => rfl

end Double

end BellmanGrid
