import BellmanGrid.Proofs.ClosedFormOptimality

/-!
Which accepted problems have an optimal law.

The closed form checks the control weight, the terminal weight and the horizon, and leaves the state
weight unchecked.  A state weight that is not negative keeps all divisors above zero, for every
horizon.  A negative one may turn a divisor negative or zero, and the law is then no minimiser: in
every solution the law is the one cheapest way to the end just when all divisors are above zero.
-/

namespace BellmanGrid

namespace LinearQuadratic

variable {α : Type} [Number α]

/-- From every time and state on, controls that follow the law cost less than any others. -/
def LawMinimises (system : LinearQuadratic α) (solution : ClosedForm α) (horizon : Nat) : Prop :=
  ∀ (time : Nat) (state : α) (optimal sequence : List α),
    time + optimal.length = horizon → time + sequence.length = horizon →
    system.Follows solution time optimal state → ¬ system.Follows solution time sequence state →
      Number.less (system.rolloutCost optimal state) (system.rolloutCost sequence state) = true

open ExactNumber

/-- All divisors are above zero, and no cost-to-go has a negative square coefficient. -/
structure WellPosed (K : Type) [Field K] [LinearOrder K] [IsStrictOrderedRing K] [ExactNumber α K]
    (system : LinearQuadratic α) (solution : ClosedForm α) : Prop where
  divisors : ∀ divisor ∈ system.divisors solution, (0 : K) < value divisor
  squares : ∀ cost ∈ solution.costs, (0 : K) ≤ value cost.square

/-- The divisors of all times from the given one on are above zero. -/
def PositiveFrom (K : Type) [Field K] [LinearOrder K] [IsStrictOrderedRing K] [ExactNumber α K]
    (system : LinearQuadratic α) (solution : ClosedForm α) (time : Nat) : Prop :=
  ∀ later next, time < later → solution.costs[later]? = some next →
    (0 : K) < value (system.divisor next)

variable {K : Type} [Field K] [LinearOrder K] [IsStrictOrderedRing K] [ExactNumber α K]
  {system : LinearQuadratic α} {solution : ClosedForm α}

theorem positiveFrom_zero_iff : PositiveFrom K system solution 0 ↔
    ∀ divisor ∈ system.divisors solution, (0 : K) < value divisor := by
  constructor
  · intro hpositive divisor hmem
    obtain ⟨next, hnext, rfl⟩ := List.mem_map.mp hmem
    obtain ⟨time, htime⟩ := List.mem_iff_getElem?.mp hnext
    rw [List.getElem?_tail] at htime
    exact hpositive (time + 1) next (Nat.succ_pos time) htime
  · intro hdivisors later next hlater hnext
    obtain ⟨time, rfl⟩ := Nat.exists_eq_succ_of_ne_zero hlater.ne'
    rw [Nat.succ_eq_add_one, ← List.getElem?_tail] at hnext
    exact hdivisors _ (List.mem_map.mpr ⟨next, List.mem_of_getElem? hnext, rfl⟩)

/-- Every solution of a problem with a state weight that is not negative is well posed. -/
theorem wellPosed_of_stateWeight {horizon : Int} (hsolve : system.solve horizon = .ok solution)
    (hweight : (0 : K) ≤ value system.q) : WellPosed K system solution :=
  ⟨divisors_pos hsolve hweight, squares_nonneg hsolve hweight⟩

/-! ### The law and the divisors -/

/-- Controls that follow the law cost the cost-to-go, as long as no divisor on the way is zero. -/
theorem value_rolloutCost_of_follows {horizon : Nat}
    (hclosed : system.IsClosedForm solution horizon)
    {sequence : List α} {time : Nat} {state : α} (hlength : time + sequence.length = horizon)
    (hfollows : system.Follows solution time sequence state)
    (hpositive : PositiveFrom K system solution time) {cost : Quadratic α}
    (hcost : solution.costs[time]? = some cost) :
    (value (system.rolloutCost sequence state) : K) = value (cost.at state) := by
  induction sequence generalizing time state cost with
  | nil =>
      obtain rfl : time = horizon := hlength
      obtain rfl := Option.some.inj (hclosed.last.symm.trans hcost)
      exact value_terminalCost state
  | cons control rest ih =>
      rw [List.length_cons] at hlength
      obtain ⟨next, hnext⟩ := hclosed.exists_cost (by omega : time + 1 ≤ horizon)
      have hbefore := hclosed.step time (by omega)
      rw [hnext, hcost, Option.map_some, Option.some.injEq] at hbefore
      obtain ⟨hcontrol, hrest⟩ := hfollows
      rw [hclosed.control_eq hnext state] at hcontrol
      have hdivisor : (value (system.divisor next) : K) ≠ 0 :=
        (hpositive _ next (Nat.lt_succ_self time) hnext).ne'
      have hlater := ih (by omega) hrest
        (fun later other hlt => hpositive later other (by omega)) hnext
      rw [rolloutCost, value_add, hlater, value_step hdivisor, ← Except.ok.inj hcontrol, sub_self,
        hbefore]
      ring

/-- The cost of a control and the cost-to-go behind it curve upwards by the divisor. -/
theorem second_difference (system : LinearQuadratic α) (next : Quadratic α) (state control : α) :
    (value (system.stageCost state (control + Number.ofInt 1)) +
          value (next.at (system.next state (control + Number.ofInt 1)))) +
        (value (system.stageCost state (control - Number.ofInt 1)) +
          value (next.at (system.next state (control - Number.ofInt 1)))) =
      2 * (value (system.stageCost state control) + value (next.at (system.next state control))) +
        2 * (value (system.divisor next) : K) := by
  simp only [value_at, value_divisor, stageCost, LinearQuadratic.next, value_add, value_sub,
    value_mul, value_ofInt]
  push_cast
  ring

/-- A law that minimises has a positive divisor before a time from which on all are positive. -/
theorem divisor_pos_of_lawMinimises {horizon : Nat}
    (hclosed : system.IsClosedForm solution horizon)
    (hminimises : system.LawMinimises solution horizon) {time : Nat} (htime : time < horizon)
    (hpositive : PositiveFrom K system solution (time + 1)) {next : Quadratic α}
    (hnext : solution.costs[time + 1]? = some next) : (0 : K) < value (system.divisor next) := by
  -- One control, and the law from the next time on.
  have hcost : ∀ (state control : α), ∃ rest : List α, rest.length = horizon - (time + 1) ∧
      system.Follows solution (time + 1) rest (system.next state control) ∧
      (value (system.rolloutCost (control :: rest) state) : K) =
        value (system.stageCost state control) + value (next.at (system.next state control)) := by
    intro state control
    obtain ⟨hlength, hfollows⟩ := follows_follow hclosed (horizon - (time + 1))
      (by omega : time + 1 + (horizon - (time + 1)) = horizon) (system.next state control)
    refine ⟨_, hlength, hfollows, ?_⟩
    rw [rolloutCost, value_add, value_rolloutCost_of_follows hclosed
      (by rw [hlength]; omega) hfollows hpositive hnext]
  have hlaw := hclosed.control_eq hnext Number.zero
  obtain ⟨optimal, hoptimal, hfollows, hleast⟩ :=
    hcost Number.zero ((system.lawBefore next).at Number.zero)
  have hless : ∀ control, control ≠ (system.lawBefore next).at Number.zero →
      (value (system.rolloutCost ((system.lawBefore next).at Number.zero :: optimal) Number.zero) :
        K) < value (system.stageCost Number.zero control) +
          value (next.at (system.next Number.zero control)) := by
    intro control hne
    obtain ⟨rest, hrest, _, hother⟩ := hcost Number.zero control
    rw [← hother, ← less_iff]
    refine hminimises time Number.zero _ _ ?_ ?_ ⟨hlaw, hfollows⟩ ?_
    · rw [List.length_cons, hoptimal]
      omega
    · rw [List.length_cons, hrest]
      omega
    · rintro ⟨hcontrol, _⟩
      exact hne (Except.ok.inj (hlaw.symm.trans hcontrol)).symm
  have hone : ∀ control : α, control + Number.ofInt 1 ≠ control ∧
      control - Number.ofInt 1 ≠ control := by
    intro control
    constructor
    · intro hequal
      have hvalue := congrArg (value : α → K) hequal
      rw [value_add, value_ofInt, Int.cast_one] at hvalue
      exact one_ne_zero (add_eq_left.mp hvalue)
    · intro hequal
      have hvalue := congrArg (value : α → K) hequal
      rw [value_sub, value_ofInt, Int.cast_one] at hvalue
      exact one_ne_zero (sub_eq_self.mp hvalue)
  have habove := hless _ (hone _).1
  have hbelow := hless _ (hone _).2
  have hcurve := second_difference (K := K) system next Number.zero
    ((system.lawBefore next).at Number.zero)
  rw [hleast] at habove hbelow
  linarith

theorem positiveFrom_of_lawMinimises {horizon : Nat}
    (hclosed : system.IsClosedForm solution horizon)
    (hminimises : system.LawMinimises solution horizon) (steps : Nat) {time : Nat}
    (hsteps : time + steps = horizon) : PositiveFrom K system solution time := by
  induction steps generalizing time with
  | zero =>
      intro later next hlater hnext
      obtain ⟨hbound, _⟩ := List.getElem?_eq_some_iff.mp hnext
      rw [hclosed.length_eq] at hbound
      omega
  | succ steps ih =>
      intro later next hlater hnext
      have hrest : PositiveFrom K system solution (time + 1) := ih (by omega)
      by_cases hfirst : later = time + 1
      · subst hfirst
        exact divisor_pos_of_lawMinimises hclosed hminimises (by omega) hrest hnext
      · exact hrest later next (by omega) hnext

theorem lawMinimises_of_divisors {horizon : Nat} (hclosed : system.IsClosedForm solution horizon)
    (hpositive : ∀ divisor ∈ system.divisors solution, (0 : K) < value divisor) :
    system.LawMinimises solution horizon := by
  intro time state optimal sequence hoptimal hsequence hfollows hother
  obtain ⟨cost, penalty, hcost, _, hrollout, _, hzero⟩ :=
    rolloutCost_eq hclosed hpositive optimal hoptimal state
  obtain ⟨same, surplus, hsame, _, hlarger, hnonneg, hlaw⟩ :=
    rolloutCost_eq hclosed hpositive sequence hsequence state
  obtain rfl := Except.ok.inj (hcost.symm.trans hsame)
  have hsurplus : 0 < surplus := hnonneg.lt_of_ne' fun hequal => hother (hlaw.mp hequal)
  rw [less_iff (K := K), hrollout, hlarger, hzero.mpr hfollows]
  linarith

/-! ### The state weight -/

/-- Over one step with no terminal weight the square coefficient is the state weight. -/
theorem stateWeight_nonneg_of_wellPosed {horizon : Int}
    (hsolve : system.solve horizon = .ok solution)
    (hwellPosed : ∀ weight length other,
      ({ system with terminalWeight := weight } : LinearQuadratic α).solve length = .ok other →
        WellPosed K { system with terminalWeight := weight } other) :
    (0 : K) ≤ value system.q := by
  obtain ⟨hcontrol, _, _⟩ := solve_eq_ok hsolve
  have hterminal : Number.less (Number.zero : α) Number.zero = false := by
    rw [Bool.eq_false_iff, ne_eq, less_iff (K := K)]
    exact lt_irrefl _
  let plain : LinearQuadratic α := { system with terminalWeight := Number.zero }
  have hplain : plain.solve 1 = .ok (plain.solveFrom plain.terminalQuadratic 1) := by
    have hstorage : Storage.check [(1 : Int).toNat + 1] = .ok () := rfl
    simp only [solve, plain, hcontrol, hterminal, hstorage]
    rfl
  have hsquare := (hwellPosed _ _ _ hplain).squares
    (plain.costBefore plain.terminalQuadratic) List.mem_cons_self
  simpa [plain, costBefore, terminalQuadratic, Number.zero] using hsquare

/-- In an accepted problem the law minimises the cost just when all divisors are above zero.  With a
state weight that is not negative they are, and the square coefficients are not negative either; and
these weights are the only ones with which this holds for all terminal weights and horizons that are
accepted. -/
theorem wellPosed_of_solve {horizon : Int} (hsolve : system.solve horizon = .ok solution) :
    ((0 : K) ≤ value system.q →
      WellPosed K system solution ∧ system.LawMinimises solution horizon.toNat) ∧
    ((∀ divisor ∈ system.divisors solution, (0 : K) < value divisor) ↔
      system.LawMinimises solution horizon.toNat) ∧
    ((∀ weight length other,
      ({ system with terminalWeight := weight } : LinearQuadratic α).solve length = .ok other →
        WellPosed K { system with terminalWeight := weight } other) ↔
      (0 : K) ≤ value system.q) := by
  have hclosed : system.IsClosedForm solution horizon.toNat := by
    obtain ⟨_, _, rfl⟩ := solve_eq_ok hsolve
    exact isClosedForm_solveFrom system horizon.toNat
  refine ⟨fun hweight => ?weight, ⟨lawMinimises_of_divisors hclosed, fun hminimises => ?divisors⟩,
    stateWeight_nonneg_of_wellPosed hsolve, fun hweight weight length other hother => ?all⟩
  case weight =>
    have hwellPosed := wellPosed_of_stateWeight hsolve hweight
    exact ⟨hwellPosed, lawMinimises_of_divisors hclosed hwellPosed.divisors⟩
  case divisors =>
    exact positiveFrom_zero_iff.mp
      (positiveFrom_of_lawMinimises hclosed hminimises _ (Nat.zero_add _))
  case all => exact wellPosed_of_stateWeight hother hweight

/-! ### State weights that are negative -/

/-- The state `x` becomes `x + u`, a step costs `weight * x * x + u * u`, and the end is free. -/
def accumulating (weight : Rat) : LinearQuadratic Rat :=
  ⟨1, 1, weight, 1, 0, 0⟩

theorem solve_accumulating (weight : Rat) : (accumulating weight).solve 2 =
    .ok ((accumulating weight).solveFrom (accumulating weight).terminalQuadratic 2) :=
  rfl

/-- The state weight one over two steps: no two controls cost less than those of the law. -/
theorem accumulating_wellPosed : ∃ solution, (accumulating 1).solve 2 = .ok solution ∧
    WellPosed Rat (accumulating 1) solution ∧ (accumulating 1).LawMinimises solution 2 := by
  have hweight : (0 : Rat) ≤ value (accumulating 1).q := zero_le_one
  obtain ⟨hwellPosed, _, _⟩ := wellPosed_of_solve (K := Rat) (solve_accumulating 1)
  exact ⟨_, solve_accumulating 1, hwellPosed hweight⟩

/-- Accepted problems with a negative state weight: one in which a divisor and a square coefficient
are negative and the controls of the law cost more than any others, and one in which a divisor is
zero. -/
theorem exists_maximising_law :
    (∃ solution, (accumulating (-2)).solve 2 = .ok solution ∧
      (accumulating (-2)).divisors solution = [-1, 1] ∧
      solution.costs.map Quadratic.square = [0, -2, 0] ∧
      ∀ state, (accumulating (-2)).Follows solution 0 [-2 * state, 0] state ∧
        ∀ control, (accumulating (-2)).rolloutCost [control, 0] state =
          (accumulating (-2)).rolloutCost [-2 * state, 0] state - (control + 2 * state) ^ 2) ∧
    ∃ solution, (accumulating (-1)).solve 2 = .ok solution ∧
      (accumulating (-1)).divisors solution = [0, 1] := by
  refine ⟨⟨_, solve_accumulating (-2), by decide +kernel, by decide +kernel,
    fun state => ⟨?follows, fun control => ?cost⟩⟩,
    ⟨_, solve_accumulating (-1), by decide +kernel⟩⟩
  case follows =>
    have hlaws : ((accumulating (-2)).solveFrom (accumulating (-2)).terminalQuadratic 2).laws =
        [⟨2, 0⟩, ⟨0, 0⟩] := by decide +kernel
    have hfirst : ((accumulating (-2)).solveFrom (accumulating (-2)).terminalQuadratic 2).laws[0]? =
        some ⟨2, 0⟩ := by rw [hlaws]; rfl
    have hsecond : ((accumulating (-2)).solveFrom
        (accumulating (-2)).terminalQuadratic 2).laws[0 + 1]? = some ⟨0, 0⟩ := by rw [hlaws]; rfl
    refine ⟨?_, ?_, trivial⟩
    · rw [ClosedForm.control_eq_ok hfirst, AffineLaw.at, sub_zero]
    · rw [ClosedForm.control_eq_ok hsecond, AffineLaw.at, sub_zero, neg_zero, zero_mul]
  case cost =>
    simp only [rolloutCost, stageCost, terminalCost, LinearQuadratic.next, accumulating]
    ring

end LinearQuadratic

end BellmanGrid
