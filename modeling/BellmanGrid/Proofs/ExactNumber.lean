import BellmanGrid.Proofs.OrderLaws
import Mathlib.Algebra.Order.Archimedean.Real.Basic
import Mathlib.Algebra.Order.Field.Basic
import Mathlib.Algebra.Order.Ring.Rat

/-!
Exact arithmetics: the quantities are elements of an ordered field, and every operation is the one
of the field.  Rationals are an exact arithmetic in which programs run, reals are one for laws only.
-/

namespace BellmanGrid

/-- Every quantity has a value in an ordered field, and operations and comparisons are exact. -/
class ExactNumber (α : Type) [Number α] (K : Type) [Field K] [LinearOrder K]
    [IsStrictOrderedRing K] where
  value : α → K
  value_injective : Function.Injective value
  value_add : ∀ first second : α, value (first + second) = value first + value second
  value_sub : ∀ first second : α, value (first - second) = value first - value second
  value_mul : ∀ first second : α, value (first * second) = value first * value second
  value_div : ∀ first second : α, value (first / second) = value first / value second
  value_neg : ∀ number : α, value (-number) = -value number
  value_ofInt : ∀ number : Int, value (Number.ofInt number : α) = number
  less_iff : ∀ first second : α, Number.less first second = true ↔ value first < value second
  atMost_iff : ∀ first second : α, Number.atMost first second = true ↔ value first ≤ value second
  nonFinite?_eq_none : ∀ number : α, Number.nonFinite? number = none

attribute [simp] ExactNumber.value_add ExactNumber.value_sub ExactNumber.value_mul
  ExactNumber.value_div ExactNumber.value_neg ExactNumber.value_ofInt

/-- Every quantity of an exact arithmetic is a finite number. -/
theorem ExactNumber.isFinite {α : Type} [Number α] (K : Type) [Field K] [LinearOrder K]
    [IsStrictOrderedRing K] [ExactNumber α K] (number : α) : Number.isFinite number = true := by
  rw [Number.isFinite, nonFinite?_eq_none (K := K)]
  rfl

/-- Exact arithmetics order their quantities, and their additions keep the order. -/
theorem ExactNumber.monotoneNumber {α : Type} [Number α] (K : Type) [Field K] [LinearOrder K]
    [IsStrictOrderedRing K] [ExactNumber α K] : MonotoneNumber α where
  atMost_refl value _ := by
    rw [atMost_iff (K := K)]
  atMost_trans first second third hfirst hsecond := by
    rw [atMost_iff (K := K)] at hfirst hsecond ⊢
    exact le_trans hfirst hsecond
  atMost_of_less first second hless := by
    rw [less_iff (K := K)] at hless
    rw [atMost_iff (K := K)]
    exact le_of_lt hless
  atMost_of_not_less first second _ _ hless := by
    rw [Bool.eq_false_iff, ne_eq, less_iff (K := K)] at hless
    rw [atMost_iff (K := K)]
    exact le_of_not_gt hless
  add_atMost_add number first second _ hatMost := by
    rw [atMost_iff (K := K)] at hatMost ⊢
    rw [value_add, value_add]
    exact add_le_add_right hatMost (value number)

instance : ExactNumber Rat Rat where
  value number := number
  value_injective := Function.injective_id
  value_add _ _ := rfl
  value_sub _ _ := rfl
  value_mul _ _ := rfl
  value_div _ _ := rfl
  value_neg _ := rfl
  value_ofInt _ := rfl
  less_iff _ _ := decide_eq_true_iff
  atMost_iff _ _ := decide_eq_true_iff
  nonFinite?_eq_none _ := rfl

instance : MonotoneNumber Rat :=
  ExactNumber.monotoneNumber Rat

open Classical in
/-- Reals: exact as well, but not to compute with. -/
noncomputable instance : Number Real where
  ofInt number := number
  ofFloat number := (FiniteDouble.ofFloat number).toRat
  less first second := decide (first < second)
  atMost first second := decide (first ≤ second)
  same first second := decide (first = second)
  magnitude number := |number|
  nonFinite? _ := none
  floorInt number := ⌊number⌋
  roundInt number :=
    if Int.fract number < 1 / 2 then ⌊number⌋
    else if 1 / 2 < Int.fract number then ⌊number⌋ + 1
    else if Even ⌊number⌋ then ⌊number⌋ else ⌊number⌋ + 1

noncomputable instance : ExactNumber Real Real where
  value number := number
  value_injective := Function.injective_id
  value_add _ _ := rfl
  value_sub _ _ := rfl
  value_mul _ _ := rfl
  value_div _ _ := rfl
  value_neg _ := rfl
  value_ofInt _ := rfl
  less_iff _ _ := decide_eq_true_iff
  atMost_iff _ _ := decide_eq_true_iff
  nonFinite?_eq_none _ := rfl

instance : MonotoneNumber Real :=
  ExactNumber.monotoneNumber Real

/-- The magnitude is exact as well, and equal quantities are those of one value. -/
class ExactDistance (α : Type) [Number α] (K : Type) [Field K] [LinearOrder K]
    [IsStrictOrderedRing K] extends ExactNumber α K where
  value_magnitude : ∀ number : α, value (Number.magnitude number) = |value number|
  same_iff : ∀ first second : α, Number.same first second = true ↔ value first = value second

attribute [simp] ExactDistance.value_magnitude

instance : ExactDistance Rat Rat where
  value_magnitude number := by
    show (if number < 0 then -number else number) = |number|
    split
    · next hnegative => exact (abs_of_neg hnegative).symm
    · next hnonneg => exact (abs_of_nonneg (not_lt.mp hnonneg)).symm
  same_iff _ _ := beq_iff_eq

noncomputable instance : ExactDistance Real Real where
  value_magnitude _ := rfl
  same_iff _ _ := decide_eq_true_iff

end BellmanGrid
