import BellmanGrid.Proofs.ClosedFormOptimality

/-!
Bounds on the coefficients of the closed form.

Every cost-to-go is a quadratic function without negative values, and a step back keeps it one, as
its discriminant tells; the constant alone would not, for a step only takes something away from it.
So the constants fall towards zero, the linear coefficients shrink, and the square coefficients stay
below a bound that no horizon and no terminal weight enters.
-/

namespace BellmanGrid

/-! ### Quadratic functions without negative values -/

section Coefficients

variable {K : Type} [Field K] [LinearOrder K] [IsStrictOrderedRing K]
  {a b q r square linear constant divisor : K}

theorem quadratic_nonneg (hsquare : 0 ≤ square) (hconstant : 0 ≤ constant)
    (hdiscriminant : linear ^ 2 ≤ 4 * square * constant) (state : K) :
    0 ≤ square * state * state + linear * state + constant := by
  rcases hsquare.eq_or_lt with hflat | hcurved
  · have hlinear : linear = 0 := by
      rw [← hflat, mul_zero, zero_mul] at hdiscriminant
      exact pow_eq_zero_iff two_ne_zero |>.mp (hdiscriminant.antisymm (sq_nonneg linear))
    rw [← hflat, hlinear]
    simpa using hconstant
  · have hcompleted : 4 * square * (square * state * state + linear * state + constant) =
        (2 * square * state + linear) ^ 2 + (4 * square * constant - linear ^ 2) := by
      ring
    have hproduct : 0 ≤ 4 * square * (square * state * state + linear * state + constant) := by
      rw [hcompleted]
      exact add_nonneg (sq_nonneg _) (sub_nonneg.mpr hdiscriminant)
    exact nonneg_of_mul_nonneg_right hproduct (mul_pos four_pos hcurved)

/-- What a step back leaves of the constant. -/
theorem constant_before_eq (hdivisor : divisor = r + square * b * b) (hne : divisor ≠ 0) :
    constant - linear * linear * b * b / (4 * divisor) =
      (4 * r * constant + b * b * (4 * square * constant - linear ^ 2)) / (4 * divisor) := by
  obtain rfl : r = divisor - square * b * b := by rw [hdivisor]; ring
  field_simp
  ring

/-- A step back without a state weight multiplies the discriminant by `a * a * r / divisor`. -/
theorem discriminant_before_eq (hdivisor : divisor = r + square * b * b) (hne : divisor ≠ 0) :
    4 * (square * a * a * r / divisor) * (constant - linear * linear * b * b / (4 * divisor)) -
        (linear * a * r / divisor) ^ 2 =
      a * a * r / divisor * (4 * square * constant - linear ^ 2) := by
  obtain rfl : r = divisor - square * b * b := by rw [hdivisor]; ring
  field_simp
  ring

end Coefficients

namespace LinearQuadratic

open ExactNumber

variable {α : Type} [Number α] {K : Type} [Field K] [LinearOrder K] [IsStrictOrderedRing K]
  [ExactNumber α K] {system : LinearQuadratic α} {next : Quadratic α}

/-- The quadratic function has no negative values, told by its coefficients. -/
structure IsNonnegative (K : Type) [Field K] [LinearOrder K] [IsStrictOrderedRing K]
    [ExactNumber α K] (cost : Quadratic α) : Prop where
  square : (0 : K) ≤ value cost.square
  constant : (0 : K) ≤ value cost.constant
  discriminant : (value cost.linear : K) ^ 2 ≤ 4 * value cost.square * value cost.constant

theorem IsNonnegative.value_at_nonneg {cost : Quadratic α} (hcost : IsNonnegative K cost)
    (state : α) : (0 : K) ≤ value (cost.at state) := by
  rw [value_at]
  exact quadratic_nonneg hcost.square hcost.constant hcost.discriminant _

theorem value_costBefore_square (next : Quadratic α) :
    (value (system.costBefore next).square : K) =
      value system.q + value next.square * value system.a * value system.a * value system.r /
        value (system.divisor next) := by
  simp [costBefore]

theorem value_costBefore_linear (next : Quadratic α) :
    (value (system.costBefore next).linear : K) =
      value next.linear * value system.a * value system.r / value (system.divisor next) := by
  simp [costBefore]

theorem value_costBefore_constant (next : Quadratic α) :
    (value (system.costBefore next).constant : K) =
      value next.constant - value next.linear * value next.linear * value system.b *
        value system.b / (4 * value (system.divisor next)) := by
  simp [costBefore]

theorem isNonnegative_terminalQuadratic (hterminal : (0 : K) ≤ value system.terminalWeight) :
    IsNonnegative K system.terminalQuadratic where
  square := hterminal
  constant := by
    simp only [terminalQuadratic, value_mul]
    rw [mul_assoc]
    exact mul_nonneg hterminal (mul_self_nonneg _)
  discriminant := by
    simp only [terminalQuadratic, value_mul, value_ofInt]
    push_cast
    exact le_of_eq (by ring)

/-- The control weight is a part of the divisor. -/
theorem controlWeight_le_divisor (hsquare : (0 : K) ≤ value next.square) :
    (value system.r : K) ≤ value (system.divisor next) := by
  rw [value_divisor, mul_assoc]
  exact le_add_of_nonneg_right (mul_nonneg hsquare (mul_self_nonneg _))

section Step

variable (hr : (0 : K) < value system.r) (hnext : IsNonnegative K next)

include hr hnext

theorem constant_costBefore_nonneg : (0 : K) ≤ value (system.costBefore next).constant := by
  have hdivisor : (0 : K) < value (system.divisor next) := divisor_pos hr hnext.square
  rw [value_costBefore_constant, constant_before_eq (value_divisor next) hdivisor.ne']
  apply div_nonneg _ (mul_pos four_pos hdivisor).le
  apply add_nonneg
  · exact mul_nonneg (mul_nonneg four_pos.le hr.le) hnext.constant
  · exact mul_nonneg (mul_self_nonneg _) (sub_nonneg.mpr hnext.discriminant)

theorem constant_costBefore_le :
    (value (system.costBefore next).constant : K) ≤ value next.constant := by
  have hdivisor : (0 : K) < value (system.divisor next) := divisor_pos hr hnext.square
  rw [value_costBefore_constant]
  apply sub_le_self
  apply div_nonneg _ (mul_pos four_pos hdivisor).le
  rw [mul_assoc]
  exact mul_nonneg (mul_self_nonneg _) (mul_self_nonneg _)

theorem stateWeight_le_square_costBefore :
    (value system.q : K) ≤ value (system.costBefore next).square := by
  have hdivisor : (0 : K) < value (system.divisor next) := divisor_pos hr hnext.square
  rw [value_costBefore_square]
  apply le_add_of_nonneg_right
  apply div_nonneg _ hdivisor.le
  rw [mul_assoc (value next.square)]
  exact mul_nonneg (mul_nonneg hnext.square (mul_self_nonneg _)) hr.le

theorem abs_linear_costBefore_le : |(value (system.costBefore next).linear : K)| ≤
    |value system.a| * |value next.linear| := by
  have hdivisor : (0 : K) < value (system.divisor next) := divisor_pos hr hnext.square
  rw [value_costBefore_linear, mul_div_assoc, abs_mul, abs_mul, mul_comm |value next.linear|,
    abs_of_pos (div_pos hr hdivisor)]
  exact mul_le_of_le_one_right (by positivity)
    ((div_le_one hdivisor).mpr (controlWeight_le_divisor hnext.square))

theorem square_costBefore_le (hb : (value system.b : K) ≠ 0) :
    (value (system.costBefore next).square : K) ≤
      value system.q + value system.a ^ 2 * value system.r / value system.b ^ 2 := by
  have hdivisor : (0 : K) < value (system.divisor next) := divisor_pos hr hnext.square
  have hpart : (value next.square : K) * value system.b ^ 2 ≤ value (system.divisor next) := by
    rw [value_divisor]
    linarith
  rw [value_costBefore_square, add_le_add_iff_left, div_le_div_iff₀ hdivisor (by positivity)]
  calc (value next.square : K) * value system.a * value system.a * value system.r *
        value system.b ^ 2
      = value system.a ^ 2 * value system.r * (value next.square * value system.b ^ 2) := by ring
    _ ≤ value system.a ^ 2 * value system.r * value (system.divisor next) :=
        mul_le_mul_of_nonneg_left hpart (mul_nonneg (sq_nonneg _) hr.le)

/-- A step back keeps a cost-to-go without negative values. -/
theorem IsNonnegative.costBefore (hq : (0 : K) ≤ value system.q) :
    IsNonnegative K (system.costBefore next) := by
  have hdivisor : (0 : K) < value (system.divisor next) := divisor_pos hr hnext.square
  have hconstant : (0 : K) ≤ value (system.costBefore next).constant :=
    constant_costBefore_nonneg hr hnext
  refine ⟨square_costBefore_nonneg hr hq hnext.square, hconstant, ?_⟩
  have hshare : (0 : K) ≤ value system.a * value system.a * value system.r /
      value (system.divisor next) * (4 * value next.square * value next.constant -
        value next.linear ^ 2) := by
    apply mul_nonneg
    · exact div_nonneg (mul_nonneg (mul_self_nonneg _) hr.le) hdivisor.le
    · exact sub_nonneg.mpr hnext.discriminant
  rw [← discriminant_before_eq (value_divisor next) hdivisor.ne', ← value_costBefore_constant,
    ← value_costBefore_linear, sub_nonneg] at hshare
  -- The state weight only adds to the right side.
  have hweight : (0 : K) ≤ 4 * value system.q * value (system.costBefore next).constant :=
    mul_nonneg (mul_nonneg four_pos.le hq) hconstant
  rw [value_costBefore_square]
  linarith

end Step

/-! ### Bounds over a horizon -/

/-- The bounds of the coefficients at one time, given those at the next. -/
structure IsBounded (K : Type) [Field K] [LinearOrder K] [IsStrictOrderedRing K] [ExactNumber α K]
    (system : LinearQuadratic α) (cost next : Quadratic α) : Prop where
  stateWeight_le_square : (value system.q : K) ≤ value cost.square
  square_le : (value system.b : K) ≠ 0 →
    (value cost.square : K) ≤
      value system.q + value system.a ^ 2 * value system.r / value system.b ^ 2
  abs_linear_le : |(value cost.linear : K)| ≤ |value system.a| * |value next.linear|
  constant_nonneg : (0 : K) ≤ value cost.constant
  constant_le : (value cost.constant : K) ≤ value next.constant

theorem isBounded_costBefore (hr : (0 : K) < value system.r) (hnext : IsNonnegative K next) :
    IsBounded K system (system.costBefore next) next where
  stateWeight_le_square := stateWeight_le_square_costBefore hr hnext
  square_le := square_costBefore_le hr hnext
  abs_linear_le := abs_linear_costBefore_le hr hnext
  constant_nonneg := constant_costBefore_nonneg hr hnext
  constant_le := constant_costBefore_le hr hnext

/-- No cost-to-go of an accepted problem without a negative state weight has negative values. -/
theorem isNonnegative_of_solve {horizon : Int} {solution : ClosedForm α}
    (hsolve : system.solve horizon = .ok solution) (hweight : (0 : K) ≤ value system.q) :
    ∀ cost ∈ solution.costs, IsNonnegative K cost := by
  have hr : (0 : K) < value system.r := controlWeight_pos hsolve
  have hterminal : (0 : K) ≤ value system.terminalWeight := terminalWeight_nonneg hsolve
  obtain ⟨_, _, rfl⟩ := solve_eq_ok hsolve
  apply forall_mem_costsDownTo system (fun _ hnext => hnext.costBefore hr hweight)
    (isNonnegative_terminalQuadratic hterminal)
  intro cost hmem
  exact absurd hmem List.not_mem_nil

/-- In an accepted problem without a negative state weight no cost-to-go is negative at any state,
and going back in time the square coefficients stay between the state weight and a bound that
depends on neither the horizon nor the terminal weight, the linear coefficients grow at most by the
factor of the dynamics, and the constants fall, but not below zero. -/
theorem isBounded_of_solve {horizon : Int} {solution : ClosedForm α}
    (hsolve : system.solve horizon = .ok solution) (hweight : (0 : K) ≤ value system.q) :
    (∀ time : Nat, time ≤ horizon.toNat → ∀ state, ∃ least,
      solution.costToGo state time = .ok least ∧ (0 : K) ≤ value least) ∧
    ∀ time : Nat, time < horizon.toNat → ∃ cost next,
      solution.costs[time]? = some cost ∧ solution.costs[time + 1]? = some next ∧
        IsBounded K system cost next := by
  have hnonneg := isNonnegative_of_solve hsolve hweight
  have hr : (0 : K) < value system.r := controlWeight_pos hsolve
  obtain ⟨_, _, rfl⟩ := solve_eq_ok hsolve
  have hclosed := isClosedForm_solveFrom system horizon.toNat
  constructor
  · intro time htime state
    obtain ⟨cost, hcost⟩ := hclosed.exists_cost htime
    exact ⟨_, IsClosedForm.costToGo_eq hcost state,
      (hnonneg cost (List.mem_of_getElem? hcost)).value_at_nonneg state⟩
  · intro time htime
    obtain ⟨next, hnext⟩ := hclosed.exists_cost (Nat.succ_le_of_lt htime)
    have hcost := hclosed.step time htime
    rw [hnext, Option.map_some] at hcost
    exact ⟨_, next, hcost, hnext,
      isBounded_costBefore hr (hnonneg next (List.mem_of_getElem? hnext))⟩

/-- The tracking problem over two steps: the square coefficient at the start is at most three. -/
theorem tracking_isBounded : ∃ solution, (Tracking.system Rat).solve 2 = .ok solution ∧
    ∃ cost next, solution.costs[0]? = some cost ∧ solution.costs[1]? = some next ∧
      IsBounded Rat (Tracking.system Rat) cost next := by
  have hsolve : (Tracking.system Rat).solve 2 =
      .ok ((Tracking.system Rat).solveFrom (Tracking.system Rat).terminalQuadratic 2) := by
    rfl
  have hweight : (0 : Rat) ≤ value (Tracking.system Rat).q := zero_le_one
  exact ⟨_, hsolve, (isBounded_of_solve (K := Rat) hsolve hweight).2 0 Nat.two_pos⟩

end LinearQuadratic

end BellmanGrid
