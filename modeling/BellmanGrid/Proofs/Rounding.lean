import BellmanGrid.Number.Double
import Mathlib.Data.Int.Order.Basic
import Mathlib.Data.Nat.Log
import Mathlib.Tactic.Linarith

/-!
Rounding to the nearest, a half going to the even neighbour, keeps the order of what it rounds.

A double counts a power of two, so every finite double and every sum of two of them is a whole
number of the smallest such power.  Rounding is therefore stated on integers.
-/

namespace BellmanGrid

section RoundQuotient

variable {numerator first second denominator bound : Nat}

theorem quotient_le_roundQuotient (numerator denominator : Nat) :
    numerator / denominator ≤ roundQuotient numerator denominator := by
  simp only [roundQuotient]
  split
  · exact Nat.le_refl _
  · split <;> omega

theorem roundQuotient_le_quotient_succ (numerator denominator : Nat) :
    roundQuotient numerator denominator ≤ numerator / denominator + 1 := by
  simp only [roundQuotient]
  split
  · omega
  · split <;> omega

theorem roundQuotient_mul (hdenominator : 0 < denominator) (bound : Nat) :
    roundQuotient (bound * denominator) denominator = bound := by
  simp [roundQuotient, Nat.mul_div_cancel _ hdenominator, hdenominator]

theorem roundQuotient_mono (hle : first ≤ second) :
    roundQuotient first denominator ≤ roundQuotient second denominator := by
  have hquotient : first / denominator ≤ second / denominator := Nat.div_le_div_right hle
  cases Nat.lt_or_eq_of_le hquotient with
  | inl hlt =>
      calc roundQuotient first denominator
          ≤ first / denominator + 1 := roundQuotient_le_quotient_succ _ _
        _ ≤ second / denominator := hlt
        _ ≤ roundQuotient second denominator := quotient_le_roundQuotient _ _
  | inr heq =>
      -- With equal quotients the remainders are in the order of the numerators.
      have hfirst := Nat.div_add_mod first denominator
      have hsecond := Nat.div_add_mod second denominator
      rw [heq] at hfirst
      have hremainder : first % denominator ≤ second % denominator := by omega
      simp only [roundQuotient, heq]
      split_ifs <;> omega

theorem roundQuotient_le (hdenominator : 0 < denominator)
    (hbound : numerator ≤ bound * denominator) :
    roundQuotient numerator denominator ≤ bound := by
  rw [← roundQuotient_mul hdenominator bound]
  exact roundQuotient_mono hbound

theorem le_roundQuotient (hdenominator : 0 < denominator)
    (hbound : bound * denominator ≤ numerator) :
    bound ≤ roundQuotient numerator denominator := by
  rw [← roundQuotient_mul hdenominator bound]
  exact roundQuotient_mono hbound

/-- A quotient is rounded to an even bound from the middle below the bound on. -/
theorem le_roundQuotient_iff {numerator half bound : Nat} (hhalf : 0 < half) (hpos : 0 < bound)
    (heven : bound % 2 = 0) :
    bound ≤ roundQuotient numerator (2 * half) ↔ bound * (2 * half) ≤ numerator + half := by
  have hsplit := Nat.div_add_mod numerator (2 * half)
  have hremainder := Nat.mod_lt numerator (by omega : 0 < 2 * half)
  rcases Nat.lt_trichotomy (numerator / (2 * half) + 1) bound with hbelow | hnext | habove
  · have hrounded := roundQuotient_le_quotient_succ numerator (2 * half)
    have hproduct : 2 * half * (numerator / (2 * half) + 2) ≤ 2 * half * bound :=
      Nat.mul_le_mul_left _ hbelow
    rw [Nat.mul_add] at hproduct
    rw [Nat.mul_comm bound]
    omega
  · subst hnext
    rw [Nat.add_mul, Nat.mul_comm (numerator / (2 * half))]
    simp only [roundQuotient]
    split_ifs <;> omega
  · have hproduct : 2 * half * bound ≤ 2 * half * (numerator / (2 * half)) :=
      Nat.mul_le_mul_left _ (by omega)
    have hrounded := quotient_le_roundQuotient numerator (2 * half)
    rw [Nat.mul_comm bound]
    omega

/-- A factor common to numerator and denominator does not matter. -/
theorem roundQuotient_mul_mul {factor : Nat} (hfactor : 0 < factor) :
    roundQuotient (numerator * factor) (denominator * factor) =
      roundQuotient numerator denominator := by
  have hless : 2 * (numerator % denominator * factor) < denominator * factor ↔
      2 * (numerator % denominator) < denominator := by
    rw [← Nat.mul_assoc]
    exact Nat.mul_lt_mul_right hfactor
  have hmore : denominator * factor < 2 * (numerator % denominator * factor) ↔
      denominator < 2 * (numerator % denominator) := by
    rw [← Nat.mul_assoc]
    exact Nat.mul_lt_mul_right hfactor
  simp only [roundQuotient, Nat.mul_div_mul_right _ _ hfactor, Nat.mul_mod_mul_right, hless, hmore]

end RoundQuotient

theorem log2_mul_two_pow {number : Nat} (hnumber : number ≠ 0) (power : Nat) :
    (number * 2 ^ power).log2 = number.log2 + power := by
  induction power with
  | zero => rw [Nat.pow_zero, Nat.mul_one, Nat.add_zero]
  | succ power ih =>
      have hnonzero : number * 2 ^ power ≠ 0 := by positivity
      rw [Nat.pow_succ, ← Nat.mul_assoc, Nat.mul_comm _ 2, Nat.log2_two_mul hnonzero, ih]
      rfl

/-- The natural nearest to `units` among those with 53 significant bits. -/
def roundUnits (units : Nat) : Nat :=
  let unit := 2 ^ (units.log2 - 52)
  roundQuotient units unit * unit

theorem roundUnits_zero : roundUnits 0 = 0 := rfl

theorem roundUnits_le_of_lt_two_pow {units power : Nat} (hlt : units < 2 ^ power) :
    roundUnits units ≤ 2 ^ power := by
  by_cases hzero : units = 0
  · subst hzero
    simp [roundUnits_zero]
  · have hlog : units.log2 < power := (Nat.log2_lt hzero).2 hlt
    have hpower : 2 ^ power = 2 ^ (power - (units.log2 - 52)) * 2 ^ (units.log2 - 52) := by
      rw [← Nat.pow_add]
      congr 1
      omega
    simp only [roundUnits]
    rw [hpower]
    apply Nat.mul_le_mul_right
    apply roundQuotient_le (Nat.two_pow_pos _)
    rw [← hpower]
    exact Nat.le_of_lt hlt

theorem two_pow_log2_le_roundUnits {units : Nat} (hzero : units ≠ 0) :
    2 ^ units.log2 ≤ roundUnits units := by
  have hpower : 2 ^ units.log2 =
      2 ^ (units.log2 - (units.log2 - 52)) * 2 ^ (units.log2 - 52) := by
    rw [← Nat.pow_add]
    congr 1
    omega
  simp only [roundUnits]
  rw [hpower]
  apply Nat.mul_le_mul_right
  apply le_roundQuotient (Nat.two_pow_pos _)
  rw [← hpower]
  exact Nat.log2_self_le hzero

/-- Naturals between the same powers of two are rounded to multiples of one unit; otherwise a power
of two lies between the results. -/
theorem roundUnits_mono {first second : Nat} (hle : first ≤ second) :
    roundUnits first ≤ roundUnits second := by
  by_cases hzero : first = 0
  · subst hzero
    simp [roundUnits_zero]
  have hsecond : second ≠ 0 := by omega
  have hlog : first.log2 ≤ second.log2 :=
    (Nat.le_log2 hsecond).2 ((Nat.log2_self_le hzero).trans hle)
  cases Nat.lt_or_eq_of_le hlog with
  | inl hlt =>
      calc roundUnits first
          ≤ 2 ^ (first.log2 + 1) := roundUnits_le_of_lt_two_pow Nat.lt_log2_self
        _ ≤ 2 ^ second.log2 := Nat.pow_le_pow_right (by decide) hlt
        _ ≤ roundUnits second := two_pow_log2_le_roundUnits hsecond
  | inr heq =>
      simp only [roundUnits, heq]
      exact Nat.mul_le_mul_right _ (roundQuotient_mono hle)

/-- Rounding leaves alone what has 53 significant bits. -/
theorem roundUnits_eq_self {significand : Nat} (hsignificand : significand < 2 ^ 53)
    (power : Nat) : roundUnits (significand * 2 ^ power) = significand * 2 ^ power := by
  by_cases hzero : significand = 0
  · subst hzero
    simp [roundUnits_zero]
  have hlog : (significand * 2 ^ power).log2 ≤ 52 + power := by
    have := (Nat.log2_lt hzero).2 hsignificand
    rw [log2_mul_two_pow hzero]
    omega
  obtain ⟨rest, hrest⟩ := Nat.exists_eq_add_of_le
    (show (significand * 2 ^ power).log2 - 52 ≤ power by omega)
  have hmultiple : significand * 2 ^ power =
      significand * 2 ^ rest * 2 ^ ((significand * 2 ^ power).log2 - 52) := by
    rw [Nat.mul_assoc, ← Nat.pow_add, Nat.add_comm rest, ← hrest]
  simp only [roundUnits]
  generalize (significand * 2 ^ power).log2 - 52 = shift at hmultiple ⊢
  rw [hmultiple, roundQuotient_mul (Nat.two_pow_pos _)]

/-- The integer nearest to `units` among those with 53 significant bits. -/
def roundSigned (units : Int) : Int :=
  units.sign * roundUnits units.natAbs

theorem roundSigned_neg (units : Int) : roundSigned (-units) = -roundSigned units := by
  simp [roundSigned]

theorem roundSigned_natCast (units : Nat) : roundSigned units = roundUnits units := by
  by_cases hzero : units = 0
  · subst hzero
    rfl
  · rw [roundSigned, Int.natAbs_natCast, Int.sign_natCast_of_ne_zero hzero, Int.one_mul]

theorem roundSigned_mono {first second : Int} (hle : first ≤ second) :
    roundSigned first ≤ roundSigned second := by
  obtain ⟨left, rfl | rfl⟩ := first.eq_nat_or_neg
  · obtain ⟨right, rfl⟩ := Int.eq_ofNat_of_zero_le (by omega : 0 ≤ second)
    rw [roundSigned_natCast, roundSigned_natCast]
    exact_mod_cast roundUnits_mono (by omega)
  · obtain ⟨right, rfl | rfl⟩ := second.eq_nat_or_neg
    · rw [roundSigned_neg, roundSigned_natCast, roundSigned_natCast]
      omega
    · rw [roundSigned_neg, roundSigned_neg, roundSigned_natCast, roundSigned_natCast]
      have := roundUnits_mono (show right ≤ left by omega)
      omega

/-! ### Integers beyond the largest double -/

theorem unitExponent_one {numerator : Nat} (hnumerator : numerator ≠ 0) :
    unitExponent numerator 1 = (numerator.log2 : Int) - 52 := by
  have hleading := Nat.log2_self_le hnumerator
  have hscaled : ¬ numerator * Nat.pow 2 (-((numerator.log2 : Int) - 52)).toNat <
      Nat.pow 2 52 * Nat.pow 2 ((numerator.log2 : Int) - 52).toNat := by
    rw [Nat.not_lt]
    calc 2 ^ 52 * 2 ^ ((numerator.log2 : Int) - 52).toNat
        = 2 ^ numerator.log2 * 2 ^ (-((numerator.log2 : Int) - 52)).toNat := by
          rw [← Nat.pow_add, ← Nat.pow_add]
          congr 1
          omega
      _ ≤ numerator * 2 ^ (-((numerator.log2 : Int) - 52)).toNat := Nat.mul_le_mul_right _ hleading
  have hone : Nat.log2 1 = 0 := rfl
  simp only [unitExponent, hone, Int.natCast_zero, Int.sub_zero, Nat.one_mul, if_neg hscaled]
  omega

theorem nearestWord_one {units : Nat} (hunits : units ≠ 0) :
    nearestWord units 1 =
      min (roundQuotient (units * 2 ^ (52 - units.log2)) (2 ^ (units.log2 - 52)) +
        (units.log2 + 1022) * 2 ^ 52) (2047 * 2 ^ 52) := by
  have hshift : (-((units.log2 : Int) - 52)).toNat = 52 - units.log2 := by omega
  have hunit : ((units.log2 : Int) - 52).toNat = units.log2 - 52 := by omega
  have hplace : ((units.log2 : Int) - 52 + 1074).toNat = units.log2 + 1022 := by omega
  simp only [nearestWord, if_neg hunits, unitExponent_one hunits, hshift, hunit, hplace,
    Nat.one_mul, Nat.pow_eq]

/-- The significand of the double next to an integer has 53 bits, unless the rounding carries. -/
theorem significand_bounds {units : Nat} (hunits : units ≠ 0) :
    2 ^ 52 ≤ roundQuotient (units * 2 ^ (52 - units.log2)) (2 ^ (units.log2 - 52)) ∧
      roundQuotient (units * 2 ^ (52 - units.log2)) (2 ^ (units.log2 - 52)) ≤ 2 ^ 53 := by
  have hleading := Nat.log2_self_le hunits
  have hbeyond : units < 2 ^ (units.log2 + 1) := Nat.lt_log2_self
  constructor
  · apply le_roundQuotient (Nat.two_pow_pos _)
    calc 2 ^ 52 * 2 ^ (units.log2 - 52)
        = 2 ^ units.log2 * 2 ^ (52 - units.log2) := by
          rw [← Nat.pow_add, ← Nat.pow_add]
          congr 1
          omega
      _ ≤ units * 2 ^ (52 - units.log2) := Nat.mul_le_mul_right _ hleading
  · apply roundQuotient_le (Nat.two_pow_pos _)
    calc units * 2 ^ (52 - units.log2)
        ≤ 2 ^ (units.log2 + 1) * 2 ^ (52 - units.log2) := Nat.mul_le_mul_right _ hbeyond.le
      _ = 2 ^ 53 * 2 ^ (units.log2 - 52) := by
        rw [← Nat.pow_add, ← Nat.pow_add]
        congr 1
        omega

/-- Rounding reaches the word of infinity from the middle between the largest double and the next
power of two on. -/
theorem le_nearestWord_iff {units power : Nat} (hpower : power = 1024) :
    2047 * 2 ^ 52 ≤ nearestWord units 1 ↔ 2 ^ power ≤ units + 2 ^ (power - 54) := by
  have hmiddle : 2 ^ (power - 54) ≤ 2 ^ (power - 1) := Nat.pow_le_pow_right (by decide) (by omega)
  have hdouble : 2 ^ power = 2 ^ (power - 1) + 2 ^ (power - 1) := by
    rw [← Nat.two_mul, ← Nat.pow_succ']
    congr 1
    omega
  by_cases hzero : units = 0
  · subst hzero
    have hpos := Nat.two_pow_pos (power - 1)
    apply iff_of_false
    · simp [nearestWord]
    · omega
  have hleading := Nat.log2_self_le hzero
  have hbeyond : units < 2 ^ (units.log2 + 1) := Nat.lt_log2_self
  have hsignificand := significand_bounds hzero
  rw [nearestWord_one hzero, le_min_iff, and_iff_left (Nat.le_refl _)]
  rcases Nat.lt_trichotomy (units.log2 + 1) power with hbelow | hlast | habove
  · have hsmall : 2 ^ (units.log2 + 1) ≤ 2 ^ (power - 1) :=
      Nat.pow_le_pow_right (by decide) (by omega)
    have hplace : (units.log2 + 1022) * 2 ^ 52 ≤ 2044 * 2 ^ 52 :=
      Nat.mul_le_mul_right _ (by omega)
    apply iff_of_false <;> omega
  · have hhalf : 2 ^ 53 ≤ roundQuotient units (2 * 2 ^ (power - 54)) ↔
        2 ^ 53 * (2 * 2 ^ (power - 54)) ≤ units + 2 ^ (power - 54) :=
      le_roundQuotient_iff (Nat.two_pow_pos _) (Nat.two_pow_pos 53) (by decide)
    have hunit : 2 ^ (units.log2 - 52) = 2 * 2 ^ (power - 54) := by
      rw [← Nat.pow_succ']
      congr 1
      omega
    have hmost : 2 ^ 53 * (2 * 2 ^ (power - 54)) = 2 ^ power := by
      rw [← Nat.pow_succ', ← Nat.pow_add]
      congr 1
      omega
    rw [hmost] at hhalf
    rw [hunit, Nat.sub_eq_zero_of_le (by omega : 52 ≤ units.log2), Nat.pow_zero, Nat.mul_one,
      ← hhalf, show units.log2 = 1023 by omega]
    omega
  · have hlarge : 2 ^ power ≤ 2 ^ units.log2 := Nat.pow_le_pow_right (by decide) (by omega)
    have hplace : 2046 * 2 ^ 52 ≤ (units.log2 + 1022) * 2 ^ 52 :=
      Nat.mul_le_mul_right _ (by omega)
    apply iff_of_true
    · omega
    · exact hlarge.trans (hleading.trans (Nat.le_add_right _ _))

/-- The least magnitude of an integer that is nearer to the power of two after the largest double
than to that double. -/
def integerLimit : Nat :=
  2 ^ 1024 - 2 ^ 970

theorem nearestInt?_eq_none_iff (number : Int) :
    nearestInt? number = none ↔ integerLimit ≤ number.natAbs := by
  have hword : nearestInt? number = none ↔ 2047 * 2 ^ 52 ≤ nearestWord number.natAbs 1 := by
    rw [nearestInt?, ← Nat.not_lt]
    split <;> next hless => simpa using hless
  rw [hword, le_nearestWord_iff rfl, integerLimit, Nat.sub_le_iff_le_add]

end BellmanGrid
