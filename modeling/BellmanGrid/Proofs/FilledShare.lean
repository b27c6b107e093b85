import BellmanGrid.Proofs.FloatLaws
import BellmanGrid.Proofs.Recursion
import BellmanGrid.Proofs.Rounding

/-!
The share of filled cells is one just when every cell is filled.

The share is rounded to a double.  A part below the whole has a share below one, as long as the
whole is less than `2 ^ 53`: then the nearest double is still below one.  A table that can be stored
has fewer cells than that.
-/

namespace BellmanGrid

/-! ### Rounded shares -/

section Shares

variable {part whole : Nat}

theorem nearestWord_self (hwhole : 0 < whole) : nearestWord whole whole = 1023 * 2 ^ 52 := by
  have hexponent : unitExponent whole whole = -52 := by
    simp only [unitExponent]
    rw [Int.sub_self, if_neg]
    · rfl
    · show ¬ whole * 2 ^ 52 < 2 ^ 52 * (whole * 2 ^ 0)
      omega
  have hsignificand : roundQuotient (whole * 2 ^ 52) whole = 2 ^ 52 := by
    rw [Nat.mul_comm]
    exact roundQuotient_mul hwhole _
  have hshift : (- -52 : Int).toNat = 52 := rfl
  have hunit : (-52 : Int).toNat = 0 := rfl
  have hplace : (-52 + 1074 : Int).toNat = 1022 := rfl
  simp only [nearestWord, if_neg (Nat.ne_of_gt hwhole), hexponent, hshift, hunit, hplace,
    Nat.pow_eq, Nat.pow_zero, Nat.mul_one, hsignificand]
  omega

/-- A double next to a share below one counts in a small enough power of two. -/
theorem exists_unitExponent (hpart : 0 < part) (hless : part < whole) (hwhole : whole < 2 ^ 53) :
    ∃ shift : Nat, unitExponent part whole = -(shift : Int) ∧ 53 ≤ shift ∧ shift ≤ 1074 ∧
      part * 2 ^ shift ≤ 2 ^ 53 * whole := by
  have hlog : part.log2 ≤ whole.log2 :=
    (Nat.le_log2 (by omega)).2 ((Nat.log2_self_le (by omega)).trans hless.le)
  have hlast : whole.log2 < 53 := (Nat.log2_lt (by omega)).2 hwhole
  obtain ⟨shift, hshift⟩ := Nat.exists_eq_add_of_le (hlog.trans (Nat.le_add_right _ 52))
  have hguess : (part.log2 : Int) - whole.log2 - 52 = -(shift : Int) := by omega
  have hscaled : part * 2 ^ shift ≤ 2 ^ 53 * whole :=
    calc part * 2 ^ shift
        ≤ 2 ^ (part.log2 + 1) * 2 ^ shift := Nat.mul_le_mul_right _ Nat.lt_log2_self.le
      _ = 2 ^ 53 * 2 ^ whole.log2 := by
        rw [← Nat.pow_add, ← Nat.pow_add]
        congr 1
        omega
      _ ≤ 2 ^ 53 * whole := Nat.mul_le_mul_left _ (Nat.log2_self_le (by omega))
  have hzero : (-(shift : Int)).toNat = 0 := by omega
  simp only [unitExponent, hguess, Int.neg_neg, Int.toNat_natCast, hzero, Nat.pow_eq,
    Nat.pow_zero, Nat.mul_one]
  by_cases hsmall : part * 2 ^ shift < 2 ^ 52 * whole
  · refine ⟨shift + 1, ?_, by omega, by omega, ?_⟩
    · rw [if_pos hsmall]
      omega
    · rw [Nat.pow_succ, ← Nat.mul_assoc]
      omega
  · have hne : shift ≠ 52 := by
      rintro rfl
      omega
    refine ⟨shift, ?_, by omega, by omega, hscaled⟩
    rw [if_neg hsmall]
    omega

/-- A share below one is rounded to a double below one. -/
theorem nearestWord_lt (hless : part < whole) (hwhole : whole < 2 ^ 53) :
    nearestWord part whole < 1023 * 2 ^ 52 := by
  by_cases hzero : part = 0
  · rw [nearestWord, if_pos hzero]
    omega
  obtain ⟨shift, hexponent, hlower, hupper, hscaled⟩ :=
    exists_unitExponent (Nat.pos_of_ne_zero hzero) hless hwhole
  have hplace : (-(shift : Int) + 1074).toNat = 1074 - shift := by omega
  have hunit : (-(shift : Int)).toNat = 0 := by omega
  simp only [nearestWord, if_neg hzero, hexponent, hplace, hunit, Int.neg_neg, Int.toNat_natCast,
    Nat.pow_eq, Nat.pow_zero, Nat.mul_one]
  rw [min_lt_iff]
  left
  rcases Nat.eq_or_lt_of_le hlower with rfl | hsmaller
  · have hsignificand : roundQuotient (part * 2 ^ 53) whole ≤ 2 ^ 53 - 1 :=
      roundQuotient_le (by omega) (by omega)
    omega
  · have hsignificand : roundQuotient (part * 2 ^ shift) whole ≤ 2 ^ 53 :=
      roundQuotient_le (by omega) hscaled
    omega

end Shares

/-! ### Doubles below one -/

namespace Double

open Float.Model (Format UnpackedFloat)
open Float.Model.UnpackedFloat

theorem toNat_unpackExponent (word : UInt64) :
    (@unpackExponent Format.binary64 word.toBitVec).toNat =
      word.toNat / 2 ^ 52 % 2 ^ 11 := by
  rw [← Nat.shiftRight_eq_div_pow]
  rfl

/-- Zero, and the finite doubles that count in a smaller power of two than one does. -/
def HasSmallUnit : UnpackedFloat → Prop
  | .finite _ _ exponent _ => exponent < -52
  | .zero _ => True
  | _ => False

theorem hasSmallUnit_unpack {word : BitVec Format.binary64.numBits}
    (hfield : (unpackExponent word).toNat < 1023) :
    HasSmallUnit (unpack Format.binary64 word) := by
  have hbias : (Format.binary64.exponentBias : Int) = 1023 := rfl
  have hlast : unpackExponent word ≠ -1#11 := by
    intro hequal
    have hvalue : (unpackExponent word).toNat = 2047 := congrArg BitVec.toNat hequal
    omega
  simp only [unpack, hbias]
  rw [if_neg hlast]
  split
  · next hzero =>
      have hzero : (unpackExponent word).toNat = 0 := congrArg BitVec.toNat hzero
      split
      · trivial
      · show ((unpackExponent word).toNat : Int) - (1023 + (52 : Nat)) + 1 < -52
        omega
  · show ((unpackExponent word).toNat : Int) - (1023 + (52 : Nat)) < -52
    omega

/-- The finite doubles that count in such a power lie below one. -/
theorem position_lt_of_exponent {sign : Sign} {significand : Nat} {exponent : Int}
    (hcanonical : IsCanonical significand exponent) (hexponent : exponent < -52) :
    sign.apply (unitsOf significand exponent) < unitsOf (2 ^ 52) (-52) := by
  have hone : IsCanonical (2 ^ 52) (-52) := ⟨by decide, by decide, Or.inr (Nat.le_refl _)⟩
  have hunits := unitsOf_lt_of_exponent_lt hcanonical hone hexponent
  have hbounds := apply_bounds sign (unitsOf significand exponent)
  omega

theorem position?_lt {value : UnpackedFloat} (hstored : IsStored value)
    (hsmall : HasSmallUnit value) :
    ∃ position, position? value = some position ∧ position < unitsOf (2 ^ 52) (-52) := by
  have hone : 0 < unitsOf (2 ^ 52) (-52) := unitsOf_pos (by decide) _
  cases value with
  | notANumber => exact hsmall.elim
  | infinity sign => exact hsmall.elim
  | zero sign => exact ⟨0, rfl, by omega⟩
  | finite sign significand exponent hpositive =>
      exact ⟨_, rfl, position_lt_of_exponent hstored.1 hsmall⟩

theorem isRounded_of_isStored {value : UnpackedFloat} (hstored : IsStored value) :
    IsRounded value := by
  cases value with
  | finite sign significand exponent hpositive => exact hstored.1
  | _ => trivial

theorem unpack_ofBits (word : UInt64) :
    (Float.ofBits word).toModel.unpack =
      unpack Format.binary64
        (pack Format.binary64 (unpack Format.binary64 word.toBitVec)) :=
  rfl

theorem floatPosition?_ofBits (word : UInt64) :
    floatPosition? (Float.ofBits word) =
      (position? (unpack Format.binary64 word.toBitVec)).map clampUnits := by
  rw [floatPosition?, unpack_ofBits, position?_unpack_pack]
  exact isRounded_of_isStored (isStored_unpack word.toBitVec)

theorem floatPosition?_one : floatPosition? 1 = some (unitsOf (2 ^ 52) (-52) : Int) := by
  decide +kernel

/-- A word below that of one is the word of a double below one. -/
theorem ofBits_less_one {word : UInt64} (hword : word.toNat < 1023 * 2 ^ 52) :
    Number.less (Float.ofBits word) 1 = true := by
  have hfield : (@unpackExponent Format.binary64 word.toBitVec).toNat < 1023 := by
    rw [toNat_unpackExponent]
    omega
  obtain ⟨position, hposition, hless⟩ :=
    position?_lt (isStored_unpack word.toBitVec) (hasSmallUnit_unpack hfield)
  have hstored := floatPosition?_ofBits word
  rw [hposition, Option.map_some] at hstored
  refine (less_iff _ _).mpr ⟨_, _, hstored, floatPosition?_one, ?_⟩
  have hpos : 0 < unitsOf (2 ^ 52) (-52) := unitsOf_pos (by decide) _
  simp only [clampUnits]
  omega

end Double

/-! ### Shares of cells -/

theorem nearest_eq_ofBits (part whole : Nat) :
    nearest false part whole = Float.ofBits (UInt64.ofNat (nearestWord part whole)) := by
  simp only [nearest, Bool.false_eq_true, if_false]

theorem nearest_self {whole : Nat} (hwhole : 0 < whole) : nearest false whole whole = 1 := by
  rw [nearest_eq_ofBits, nearestWord_self hwhole]
  decide +kernel

/-- A rounded share is one only for the whole. -/
theorem nearest_eq_one_iff {part whole : Nat} (hpart : part ≤ whole) (hpos : 0 < whole)
    (hwhole : whole < 2 ^ 53) : nearest false part whole = 1 ↔ part = whole := by
  constructor
  · intro hone
    by_contra hne
    have hword := nearestWord_lt (by omega : part < whole) hwhole
    have hsmall : (UInt64.ofNat (nearestWord part whole)).toNat < 1023 * 2 ^ 52 := by
      rw [UInt64.toNat_ofNat']
      exact (Nat.mod_le _ _).trans_lt hword
    have hless := Double.ofBits_less_one hsmall
    have hself : Number.less (1 : Float) 1 = false := by decide +kernel
    rw [← nearest_eq_ofBits, hone, hself] at hless
    exact Bool.false_ne_true hless
  · rintro rfl
    exact nearest_self hpos

namespace Table

variable {α : Type} [Number α] {states horizon : Nat}

theorem filledInColumn_le (column : Vector (Option α) states) : filledInColumn column ≤ states := by
  have hcount := @Array.countP_le_size _ isFilled column.toArray
  rwa [Vector.size_toArray] at hcount

theorem filledInColumn_eq_iff (column : Vector (Option α) states) :
    filledInColumn column = states ↔ column.toArray.all isFilled = true := by
  have hcount : column.toArray.countP isFilled = column.toArray.size ↔ _ := Array.countP_eq_size
  rw [Vector.size_toArray] at hcount
  rw [filledInColumn, hcount, Array.all_eq_true']

/-- Columns have at most as many filled cells as there are, and as many only when all of them are
filled. -/
theorem foldl_filledInColumn (columns : List (Vector (Option α) states)) (start : Nat) :
    columns.foldl (fun cells column => cells + filledInColumn column) start ≤
        start + states * columns.length ∧
      (columns.foldl (fun cells column => cells + filledInColumn column) start =
          start + states * columns.length ↔
        ∀ column ∈ columns, column.toArray.all isFilled = true) := by
  induction columns generalizing start with
  | nil => simp
  | cons column rest ih =>
      obtain ⟨hle, hequal⟩ := ih (start + filledInColumn column)
      have hcolumn := filledInColumn_le column
      rw [List.foldl_cons, List.length_cons, Nat.mul_succ, List.forall_mem_cons, ← hequal,
        ← filledInColumn_eq_iff]
      omega

theorem all_columns_iff {count : Nat} (columns : Vector (Vector (Option α) states) count) :
    columns.toArray.all (fun column => column.toArray.all isFilled) = true ↔
      ∀ column ∈ columns.toList, column.toArray.all isFilled = true := by
  rw [Array.all_eq_true']
  exact forall_congr' fun column => by rw [Vector.mem_toArray_iff, Vector.mem_toList_iff]

/-- The filled cells of a table are at most all of its cells, and all of them only when it is
complete. -/
theorem filledCount_spec (table : Table α states horizon) :
    table.filledCount ≤ table.cellCount ∧
      (table.filledCount = table.cellCount ↔ table.isComplete = true) := by
  obtain ⟨hcosts, hcostsEqual⟩ := foldl_filledInColumn table.cost.toList 0
  obtain ⟨hpolicy, hpolicyEqual⟩ := foldl_filledInColumn table.policy.toList
    (table.cost.toList.foldl (fun cells column => cells + filledInColumn column) 0)
  rw [isComplete, Bool.and_eq_true, all_columns_iff, all_columns_iff, ← hcostsEqual,
    ← hpolicyEqual, filledCount, cellCount]
  simp only [Vector.length_toList] at *
  omega

/-- A table that can be stored is complete just when the share of its filled cells is one. -/
theorem isComplete_iff_filledFraction (table : Table α states horizon) {size : Nat × Nat}
    (hsize : checkSize states horizon = .ok size) :
    table.isComplete = true ↔ table.filledFraction = 1 := by
  obtain ⟨hstates, hgranted, _⟩ := checkSize_eq_ok_iff.mp hsize
  obtain ⟨hle, hequal⟩ := table.filledCount_spec
  have hbytes := (Storage.check_eq_ok_iff.mp hgranted).2.2
  have hcells : states * (horizon + 1) < 2 ^ 37 := by
    simp only [extent, List.foldr_cons, List.foldr_nil, Nat.mul_one, Storage.granted,
      Nat.pow_eq] at hbytes
    omega
  have hpolicy : states * horizon ≤ states * (horizon + 1) := Nat.mul_le_mul_left _ (Nat.le_succ _)
  have hpos : 0 < states * (horizon + 1) := Nat.mul_pos hstates (Nat.succ_pos _)
  have hwhole : 0 < table.cellCount ∧ table.cellCount < 2 ^ 53 := by
    rw [cellCount]
    omega
  rw [filledFraction, nearest_eq_one_iff hle hwhole.1 hwhole.2, hequal]

end Table

end BellmanGrid
