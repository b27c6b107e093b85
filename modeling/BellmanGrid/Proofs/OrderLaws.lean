import BellmanGrid.Number.Basic

/-!
Laws of an arithmetic.

Theorems about grids and tables name the laws that they need: a comparison that orders the finite
quantities, and an addition that keeps the order in its right operand.  Nothing is said about exact
sums, so an arithmetic that rounds each operation can have these laws as well.
-/

namespace BellmanGrid

/-- A double that is no finite number is judged as it is before it is taken over. -/
class LawfulConversion (α : Type) [Number α] : Prop where
  finite_ofFloat : ∀ number : Float, NonFinite.ofFloat? number = none →
    Number.isFinite (Number.ofFloat number : α) = true

/-- The comparisons order the finite quantities. -/
class OrderedNumber (α : Type) [Number α] : Prop where
  atMost_refl : ∀ value : α, Number.isFinite value = true → Number.atMost value value = true
  atMost_trans : ∀ first second third : α, Number.atMost first second = true →
    Number.atMost second third = true → Number.atMost first third = true
  atMost_of_less : ∀ first second : α, Number.less first second = true →
    Number.atMost first second = true
  atMost_of_not_less : ∀ first second : α, Number.isFinite first = true →
    Number.isFinite second = true → Number.less first second = false →
      Number.atMost second first = true

/-- Addition keeps the order in its right operand, as long as the smaller sum is finite. -/
class MonotoneNumber (α : Type) [Number α] : Prop extends OrderedNumber α where
  add_atMost_add : ∀ value first second : α, Number.isFinite (value + first) = true →
    Number.atMost first second = true →
      Number.atMost (value + first) (value + second) = true

instance : LawfulConversion Float where
  finite_ofFloat number hnumber := by
    have hfinite : Number.nonFinite? number = none := hnumber
    show (Number.nonFinite? number).isNone = true
    rw [hfinite]
    rfl

instance : LawfulConversion Rat where
  finite_ofFloat _ _ := rfl

end BellmanGrid
