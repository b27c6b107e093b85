import BellmanGrid.Proofs.DoubleAddition
import BellmanGrid.Proofs.OrderLaws

/-!
Doubles have the laws of an arithmetic whose addition keeps the order.
-/

namespace BellmanGrid

namespace Double

open Float.Model (Format UnpackedFloat)
open Float.Model.UnpackedFloat

/-- The place of a double among the others, unless it is no number. -/
def floatPosition? (number : Float) : Option Int :=
  position? number.toModel.unpack

theorem isStored_float (number : Float) : IsStored number.toModel.unpack :=
  isStored_unpack _

theorem unpack_add (first second : Float) :
    (first + second).toModel.unpack =
      unpack Format.binary64
        (pack Format.binary64
          (UnpackedFloat.add Format.binary64 first.toModel.unpack second.toModel.unpack)) :=
  rfl

theorem atMost_iff (first second : Float) :
    Number.atMost first second = true ↔
      ∃ left right, floatPosition? first = some left ∧ floatPosition? second = some right ∧
        left ≤ right := by
  refine Iff.trans ?_ (le_eq_true_iff (isStored_float first) (isStored_float second))
  show decide (decide (first.toModel.unpack.le second.toModel.unpack = true) = true) = true ↔ _
  rw [decide_eq_true_iff, decide_eq_true_iff]

theorem less_iff (first second : Float) :
    Number.less first second = true ↔
      ∃ left right, floatPosition? first = some left ∧ floatPosition? second = some right ∧
        left < right := by
  refine Iff.trans ?_ (lt_eq_true_iff (isStored_float first) (isStored_float second))
  show decide (decide (first.toModel.unpack.lt second.toModel.unpack = true) = true) = true ↔ _
  rw [decide_eq_true_iff, decide_eq_true_iff]

theorem isFinite_iff (number : Float) :
    Number.isFinite number = true ↔ number.toModel.unpack.isFinite = true := by
  show (NonFinite.ofFloat? number).isNone = true ↔ number.isFinite = true
  simp only [NonFinite.ofFloat?]
  split
  · simp_all
  · split <;> [skip; split] <;> simp_all

theorem exists_floatPosition? {number : Float} (hfinite : Number.isFinite number = true) :
    ∃ position, floatPosition? number = some position := by
  rw [isFinite_iff] at hfinite
  simp only [floatPosition?]
  cases hunpacked : number.toModel.unpack with
  | notANumber =>
      rw [hunpacked] at hfinite
      cases hfinite
  | infinity sign => exact ⟨_, rfl⟩
  | zero sign => exact ⟨_, rfl⟩
  | finite sign significand exponent hpositive => exact ⟨_, rfl⟩

/-- Only finite summands have a finite sum. -/
theorem isFinite_of_add {first second : Float}
    (hsum : Number.isFinite (first + second) = true) :
    Number.isFinite first = true ∧ Number.isFinite second = true := by
  rw [isFinite_iff, unpack_add] at hsum
  rw [isFinite_iff, isFinite_iff]
  exact isFinite_summands (isFinite_of_unpack_pack hsum)

/-- Sums of finite doubles are placed like the exact sums of their places. -/
theorem floatPosition?_add {first second : Float} (hfirst : Number.isFinite first = true)
    (hsecond : Number.isFinite second = true) {left right : Int}
    (hleft : floatPosition? first = some left) (hright : floatPosition? second = some right) :
    floatPosition? (first + second) = some (clampUnits (roundSigned (left + right))) := by
  rw [isFinite_iff] at hfirst hsecond
  obtain ⟨hrounded, hposition⟩ :=
    add_position? (isStored_float first) (isStored_float second) hfirst hsecond hleft hright
  rw [floatPosition?, unpack_add, position?_unpack_pack hrounded, hposition]
  rfl

instance : OrderedNumber Float where
  atMost_refl value hfinite := by
    obtain ⟨position, hposition⟩ := exists_floatPosition? hfinite
    exact (atMost_iff value value).2 ⟨position, position, hposition, hposition, Int.le_refl _⟩
  atMost_trans first second third hfirst hsecond := by
    obtain ⟨left, middle, hleft, hmiddle, hle⟩ := (atMost_iff first second).1 hfirst
    obtain ⟨middle', right, hmiddle', hright, hle'⟩ := (atMost_iff second third).1 hsecond
    obtain rfl : middle = middle' := Option.some.inj (hmiddle.symm.trans hmiddle')
    exact (atMost_iff first third).2 ⟨left, right, hleft, hright, hle.trans hle'⟩
  atMost_of_less first second hless := by
    obtain ⟨left, right, hleft, hright, hlt⟩ := (less_iff first second).1 hless
    exact (atMost_iff first second).2 ⟨left, right, hleft, hright, Int.le_of_lt hlt⟩
  atMost_of_not_less first second hfirst hsecond hless := by
    obtain ⟨left, hleft⟩ := exists_floatPosition? hfirst
    obtain ⟨right, hright⟩ := exists_floatPosition? hsecond
    refine (atMost_iff second first).2 ⟨right, left, hright, hleft, ?_⟩
    by_contra hlt
    have hmore := (less_iff first second).2 ⟨left, right, hleft, hright, by omega⟩
    rw [hless] at hmore
    cases hmore

instance : MonotoneNumber Float where
  add_atMost_add value first second hsum hle := by
    obtain ⟨hvalue, hfirst⟩ := isFinite_of_add hsum
    obtain ⟨left, right, hleft, hright, hle⟩ := (atMost_iff first second).1 hle
    obtain ⟨start, hstart⟩ := exists_floatPosition? hvalue
    have hsmaller := floatPosition?_add hvalue hfirst hstart hleft
    rw [atMost_iff]
    by_cases hsecond : Number.isFinite second = true
    · have hlarger := floatPosition?_add hvalue hsecond hstart hright
      refine ⟨_, _, hsmaller, hlarger, ?_⟩
      exact clampUnits_mono (roundSigned_mono (Int.add_le_add_left hle start))
    · -- Only positive infinity is above a finite double without being finite.
      have hinfinite : second.toModel.unpack = .infinity .positive := by
        rw [isFinite_iff] at hfirst hsecond
        have hlower := (position?_bounds (isStored_float first) hfirst hleft).1
        exact eq_infinity_of_lt hsecond hright (by omega)
      refine ⟨_, _, hsmaller, ?_, clampUnits_le _⟩
      rw [isFinite_iff] at hvalue
      rw [floatPosition?, unpack_add, hinfinite, add_infinity hvalue, pack,
        unpack_packedInfinity]
      rfl

end Double

end BellmanGrid
