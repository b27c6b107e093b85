import BellmanGrid.Proofs.FilledShare
import BellmanGrid.Value.Conversion
import Mathlib.Data.Int.Order.Basic

/-!
The double nearest to an integer, taken apart again.

Its value is the integer with the 53 leading bits of the given one, rounded; so an integer of at
most 53 significant bits comes back as it was, and so does the integer part of any double.
-/

namespace BellmanGrid

/-! ### Words and doubles -/

namespace Double

open Float.Model (Format)
open Float.Model.UnpackedFloat

/-- A word whose exponent field is not the last one is kept by the double that has it. -/
theorem toBits_ofBits {word : UInt64} (hfield : word.toNat / 2 ^ 52 % 2048 ≠ 2047) :
    (Float.ofBits word).toBits = word := by
  have hnumber : @isNaNBits Format.binary64 word.toBitVec = false := by
    apply decide_eq_false
    rintro ⟨hlast, -⟩
    have hvalue : (@unpackExponent Format.binary64 word.toBitVec).toNat = 2047 :=
      congrArg BitVec.toNat hlast
    rw [toNat_unpackExponent] at hvalue
    exact hfield hvalue
  have hword : pack Format.binary64 (unpack Format.binary64 word.toBitVec) = word.toBitVec := by
    rw [pack_unpack, hnumber, if_neg Bool.false_ne_true]
  exact congrArg UInt64.ofBitVec hword

/-- The fields of a double are those that its word was put together from. -/
theorem ofFloat_ofBits {negative : Bool} {field fraction : Nat} (hpos : 0 < field)
    (hfinite : field < 2047) (hfraction : fraction < 2 ^ 52) :
    Reading.ofFloat (Float.ofBits (UInt64.ofNat
        (if negative then fraction + field * 2 ^ 52 + 2 ^ 63 else fraction + field * 2 ^ 52))) =
      .finite ⟨negative, fraction + 2 ^ 52, (field : Int) - 1075⟩ := by
  obtain ⟨word, hword, hnat⟩ : ∃ word : Nat,
      (if negative then fraction + field * 2 ^ 52 + 2 ^ 63 else fraction + field * 2 ^ 52) = word ∧
        (UInt64.ofNat word).toNat = word := by
    refine ⟨_, rfl, ?_⟩
    rw [UInt64.toNat_ofNat']
    apply Nat.mod_eq_of_lt
    cases negative
    · rw [if_neg Bool.false_ne_true]
      omega
    · rw [if_pos rfl]
      omega
  have hparts : word / 2 ^ 52 % 2048 = field ∧ word % 2 ^ 52 = fraction ∧
      decide (2 ^ 63 ≤ word) = negative := by
    cases negative
    · rw [if_neg Bool.false_ne_true] at hword
      exact ⟨by omega, by omega, decide_eq_false (by omega)⟩
    · rw [if_pos rfl] at hword
      exact ⟨by omega, by omega, decide_eq_true (by omega)⟩
  obtain ⟨hfield, hrest, hsign⟩ := hparts
  rw [hword, Reading.ofFloat, toBits_ofBits (by rw [hnat, hfield]; omega), hnat]
  simp only [Nat.pow_eq, hfield, hrest, hsign]
  rw [if_neg (by omega), if_neg (by omega)]
  rfl

end Double

/-! ### The nearest double to an integer -/

namespace FiniteDouble

theorem fraction_eq (value : FiniteDouble) :
    value.fraction =
      (value.significand * 2 ^ value.exponent.toNat, 2 ^ (-value.exponent).toNat) := by
  rw [fraction]
  split
  · next hnonneg => rw [show (-value.exponent).toNat = 0 by omega, Nat.pow_zero, Nat.pow_eq]
  · next hneg => rw [show value.exponent.toNat = 0 by omega, Nat.pow_zero, Nat.mul_one, Nat.pow_eq]

/-- The value is the integer `± units`. -/
def IsInteger (value : FiniteDouble) (units : Nat) : Prop :=
  value.significand * 2 ^ value.exponent.toNat = units * 2 ^ (-value.exponent).toNat

variable {value : FiniteDouble} {units : Nat}

theorem IsInteger.truncate_eq (hvalue : value.IsInteger units) :
    value.truncate = value.signed units := by
  rw [truncate, fraction_eq]
  dsimp only
  rw [hvalue, Nat.mul_div_cancel _ (Nat.two_pow_pos _)]

theorem IsInteger.isIntegral (hvalue : value.IsInteger units) : value.isIntegral = true := by
  rw [FiniteDouble.isIntegral, fraction_eq]
  dsimp only
  rw [hvalue, Nat.mul_mod_left, decide_eq_true rfl]

end FiniteDouble

/-- The significand of the double next to an integer, in the units of both. -/
theorem significand_mul_eq_roundUnits (units : Nat) :
    roundQuotient (units * 2 ^ (52 - units.log2)) (2 ^ (units.log2 - 52)) * 2 ^ (units.log2 - 52) =
      roundUnits units * 2 ^ (52 - units.log2) := by
  rw [roundUnits]
  rcases Nat.le_total 52 units.log2 with hlarge | hsmall
  · rw [Nat.sub_eq_zero_of_le hlarge, Nat.pow_zero, Nat.mul_one, Nat.mul_one]
  · have hwhole (number : Nat) : roundQuotient number 1 = number := by
      simpa using roundQuotient_mul Nat.one_pos number
    rw [Nat.sub_eq_zero_of_le hsmall, Nat.pow_zero, Nat.mul_one, Nat.mul_one, hwhole, hwhole]

/-- The fields of the double next to an integer. -/
theorem exists_fields {units significand : Nat} (hlower : 2 ^ 52 ≤ significand)
    (hupper : significand ≤ 2 ^ 53)
    (hword : significand + (units.log2 + 1022) * 2 ^ 52 < 2047 * 2 ^ 52)
    (hequal : significand * 2 ^ (units.log2 - 52) = roundUnits units * 2 ^ (52 - units.log2))
    (negative : Bool) : ∃ field fraction, 0 < field ∧ field < 2047 ∧ fraction < 2 ^ 52 ∧
      significand + (units.log2 + 1022) * 2 ^ 52 = fraction + field * 2 ^ 52 ∧
        (FiniteDouble.mk negative (fraction + 2 ^ 52) ((field : Int) - 1075)).IsInteger
          (roundUnits units) := by
  obtain ⟨fraction, rfl⟩ : ∃ fraction, significand = fraction + 2 ^ 52 :=
    ⟨_, (Nat.sub_add_cancel hlower).symm⟩
  have hplace : fraction + 2 ^ 52 + (units.log2 + 1022) * 2 ^ 52 =
      fraction + (units.log2 + 1023) * 2 ^ 52 := by
    ring
  rcases Nat.lt_or_eq_of_le hupper with hbelow | hcarry
  · have hfield : units.log2 + 1023 < 2047 := by
      rw [hplace] at hword
      exact Nat.lt_of_mul_lt_mul_right ((Nat.le_add_left _ _).trans_lt hword)
    refine ⟨units.log2 + 1023, fraction, Nat.succ_pos _, hfield, by omega, hplace, ?_⟩
    rw [FiniteDouble.IsInteger]
    dsimp only
    rw [show (((units.log2 + 1023 : Nat) : Int) - 1075).toNat = units.log2 - 52 by omega,
      show (-(((units.log2 + 1023 : Nat) : Int) - 1075)).toNat = 52 - units.log2 by omega, hequal]
  · -- The rounding has carried into a further bit.
    have hcarried : fraction = 2 ^ 52 := by omega
    subst hcarried
    have hfield : units.log2 + 1024 < 2047 := by
      have hplace : 2 ^ 52 + 2 ^ 52 + (units.log2 + 1022) * 2 ^ 52 =
          (units.log2 + 1024) * 2 ^ 52 := by
        ring
      rw [hplace] at hword
      exact Nat.lt_of_mul_lt_mul_right hword
    refine ⟨units.log2 + 1024, 0, Nat.succ_pos _, hfield, Nat.two_pow_pos _, by ring, ?_⟩
    rw [FiniteDouble.IsInteger]
    dsimp only
    rcases Nat.lt_or_ge units.log2 52 with hsmall | hlarge
    · rw [show 52 - units.log2 = 51 - units.log2 + 1 by omega,
        Nat.sub_eq_zero_of_le hsmall.le] at hequal
      rw [show (((units.log2 + 1024 : Nat) : Int) - 1075).toNat = 0 by omega,
        show (-(((units.log2 + 1024 : Nat) : Int) - 1075)).toNat = 51 - units.log2 by omega]
      rw [pow_succ 2 (51 - units.log2)] at hequal
      linarith
    · rw [show (((units.log2 + 1024 : Nat) : Int) - 1075).toNat = units.log2 - 52 + 1 by omega,
        show (-(((units.log2 + 1024 : Nat) : Int) - 1075)).toNat = 52 - units.log2 by omega,
        ← hequal, Nat.pow_succ]
      ring

/-- The exact value of the double next to an integer is the integer rounded to 53 bits. -/
theorem exists_ofFloat_nearest (negative : Bool) {units : Nat} (hunits : units ≠ 0)
    (hless : units < integerLimit) : ∃ value : FiniteDouble,
    Reading.ofFloat (nearest negative units 1) = .finite value ∧ value.negative = negative ∧
      value.IsInteger (roundUnits units) := by
  obtain ⟨hlower, hupper⟩ := significand_bounds hunits
  have hword : nearestWord units 1 < 2047 * 2 ^ 52 := by
    rw [← Nat.not_le, le_nearestWord_iff rfl]
    rw [integerLimit] at hless
    omega
  rw [nearestWord_one hunits, min_lt_iff] at hword
  have hword := hword.resolve_right (Nat.lt_irrefl _)
  obtain ⟨field, fraction, hpos, hfinite, hfraction, hsplit, hvalue⟩ :=
    exists_fields hlower hupper hword (significand_mul_eq_roundUnits units) negative
  refine ⟨_, ?_, rfl, hvalue⟩
  rw [nearest, nearestWord_one hunits, Nat.min_eq_left hword.le, hsplit]
  exact Double.ofFloat_ofBits hpos hfinite hfraction

/-- The double next to an integer is exactly the integer rounded to 53 bits. -/
theorem exists_ofFloat_floatOfInt {number : Int} (hless : number.natAbs < integerLimit) :
    ∃ value : FiniteDouble, Reading.ofFloat (floatOfInt number) = .finite value ∧
      value.isIntegral = true ∧ value.truncate = roundSigned number := by
  by_cases hzero : number = 0
  · subst hzero
    exact ⟨⟨false, 0, -1074⟩, by decide +kernel, by decide +kernel, by decide +kernel⟩
  · obtain ⟨value, hreading, hsign, hvalue⟩ :=
      exists_ofFloat_nearest (decide (number < 0)) (Int.natAbs_ne_zero.mpr hzero) hless
    refine ⟨value, hreading, hvalue.isIntegral, ?_⟩
    rw [hvalue.truncate_eq, FiniteDouble.signed, hsign, roundSigned]
    rcases Int.lt_or_gt_of_ne hzero with hneg | hpos
    · rw [decide_eq_true hneg, if_pos rfl, Int.sign_eq_neg_one_of_neg hneg, Int.neg_one_mul]
    · rw [decide_eq_false hpos.not_gt, if_neg Bool.false_ne_true, Int.sign_eq_one_of_pos hpos,
        Int.one_mul]

theorem roundSigned_eq_self {number : Int} (hbits : number.natAbs ≤ 2 ^ 53) :
    roundSigned number = number := by
  have hsame : roundUnits number.natAbs = number.natAbs := by
    rcases Nat.lt_or_eq_of_le hbits with hless | hpower
    · simpa using roundUnits_eq_self hless 0
    · rw [hpower]
      exact roundUnits_eq_self (by decide : 1 < 2 ^ 53) 53
  rw [roundSigned, hsame, Int.sign_mul_natAbs]

/-! ### Integers that doubles have -/

/-- A double has the integer as its exact value. -/
def IsDoubleInteger (number : Int) : Prop :=
  number.natAbs < integerLimit ∧ roundSigned number = number

theorem isDoubleInteger_of_natAbs_le {number : Int} (hbits : number.natAbs ≤ 2 ^ 53) :
    IsDoubleInteger number := by
  have hlimit : 2 ^ 53 < integerLimit := by decide +kernel
  exact ⟨hbits.trans_lt hlimit, roundSigned_eq_self hbits⟩

theorem truncate_ofFloat_floatOfInt {number : Int} (hbits : number.natAbs ≤ 2 ^ 53) :
    (FiniteDouble.ofFloat (floatOfInt number)).truncate = number := by
  obtain ⟨hless, hrounded⟩ := isDoubleInteger_of_natAbs_le hbits
  obtain ⟨value, hreading, -, htruncate⟩ := exists_ofFloat_floatOfInt hless
  rw [FiniteDouble.ofFloat, hreading]
  exact htruncate.trans hrounded

namespace FiniteDouble

theorem roundSigned_signed (value : FiniteDouble) (magnitude : Nat) :
    roundSigned (value.signed magnitude) = value.signed (roundUnits magnitude) := by
  rw [signed, signed]
  split
  · rw [roundSigned_neg, roundSigned_natCast]
  · exact roundSigned_natCast magnitude

theorem natAbs_signed (value : FiniteDouble) (magnitude : Nat) :
    (value.signed magnitude).natAbs = magnitude := by
  rw [signed]
  split
  · rw [Int.natAbs_neg, Int.natAbs_natCast]
  · exact Int.natAbs_natCast magnitude

end FiniteDouble

/-- The fields of a finite double: 53 bits, and an exponent in the range of the format. -/
theorem significand_lt_and_exponent_le {number : Float} {value : FiniteDouble}
    (hreading : Reading.ofFloat number = .finite value) :
    value.significand < 2 ^ 53 ∧ value.exponent ≤ 971 := by
  simp only [Reading.ofFloat, Nat.pow_eq] at hreading
  have hfraction : number.toBits.toNat % 2 ^ 52 < 2 ^ 52 := Nat.mod_lt _ (Nat.two_pow_pos 52)
  have hfield : number.toBits.toNat / 2 ^ 52 % 2048 < 2048 := Nat.mod_lt _ (by decide)
  split at hreading
  · split at hreading <;> cases hreading
  · next hfinite =>
      split at hreading
      · cases hreading
        exact ⟨hfraction.trans (by decide), (by decide : (-1074 : Int) ≤ 971)⟩
      · cases hreading
        rw [Int.ofNat_eq_natCast]
        dsimp only
        omega

/-- The integer part of a double is an integer that a double has. -/
theorem isDoubleInteger_truncate {number : Float} {value : FiniteDouble}
    (hreading : Reading.ofFloat number = .finite value) : IsDoubleInteger value.truncate := by
  obtain ⟨hsignificand, hexponent⟩ := significand_lt_and_exponent_le hreading
  rw [FiniteDouble.truncate, FiniteDouble.fraction]
  split
  · next hnonneg =>
      simp only [Nat.pow_eq, Nat.div_one]
      rw [IsDoubleInteger, FiniteDouble.natAbs_signed, FiniteDouble.roundSigned_signed,
        roundUnits_eq_self hsignificand]
      refine ⟨?_, rfl⟩
      calc value.significand * 2 ^ value.exponent.toNat
          ≤ (2 ^ 53 - 1) * 2 ^ 971 :=
            Nat.mul_le_mul (Nat.le_sub_one_of_lt hsignificand)
              (Nat.pow_le_pow_right Nat.two_pos (by omega))
        _ < integerLimit := by decide +kernel
  · apply isDoubleInteger_of_natAbs_le
    rw [FiniteDouble.natAbs_signed]
    exact (Nat.div_le_self _ _).trans hsignificand.le

end BellmanGrid
