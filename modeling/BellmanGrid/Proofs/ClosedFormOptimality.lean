import BellmanGrid.LinearQuadratic.ClosedForm
import BellmanGrid.Proofs.ExactNumber
import BellmanGrid.Proofs.Tracking
import BellmanGrid.Trajectory.Cost
import Mathlib.Tactic.FieldSimp
import Mathlib.Tactic.Linarith
import Mathlib.Tactic.NormNum
import Mathlib.Tactic.Positivity
import Mathlib.Tactic.Ring

/-!
The closed form is optimal among all control sequences.

In exact arithmetic the cost of a control sequence exceeds the cost-to-go by one term for each time:
the divisor of the time, multiplied by the squared distance between the control and the law.  This
is the completed square of the recursion, carried over a sequence by induction.  With positive
divisors the cost-to-go is the minimum, and the law the only way to attain it.
-/

namespace BellmanGrid

variable {α : Type} [Number α]

theorem ClosedForm.control_eq_ok {solution : ClosedForm α} {time : Nat} {law : AffineLaw α}
    (hlaw : solution.laws[time]? = some law) (state : α) :
    solution.control state time = .ok (law.at state) := by
  obtain ⟨htime, rfl⟩ := List.getElem?_eq_some_iff.mp hlaw
  rw [ClosedForm.control, position_of_lt 0 htime]
  rfl

/-- The square in the control is completed: what is left is the cost-to-go one step before. -/
theorem completing_square {K : Type} [Field K] [LinearOrder K] [IsStrictOrderedRing K]
    (a b q r square linear constant state control : K) {divisor : K}
    (hdivisor : divisor = r + square * b * b) (hne : divisor ≠ 0) :
    q * state * state + r * control * control +
        (square * (a * state + b * control) * (a * state + b * control) +
          linear * (a * state + b * control) + constant) =
      (q + square * a * a * r / divisor) * state * state + linear * a * r / divisor * state +
          (constant - linear * linear * b * b / (4 * divisor)) +
        divisor * (control -
          (-(square * a * b / divisor) * state - linear * b / (2 * divisor))) ^ 2 := by
  obtain rfl : r = divisor - square * b * b := by rw [hdivisor]; ring
  field_simp
  ring

namespace LinearQuadratic

variable (system : LinearQuadratic α)

/-- The stage costs of a control sequence from a state on, and the terminal cost behind it. -/
def rolloutCost : (sequence : List α) → (state : α) → α
  | [], state => system.terminalCost state
  | control :: rest, state =>
      system.stageCost state control + rolloutCost rest (system.next state control)

/-- What the laws of a solution are divided by, in the order of time. -/
def divisors (solution : ClosedForm α) : List α :=
  solution.costs.tail.map system.divisor

/-- The controls of a sequence are those of the solution, from a time and a state on. -/
def Follows (solution : ClosedForm α) : (time : Nat) → (sequence : List α) → (state : α) → Prop
  | _, [], _ => True
  | time, control :: rest, state =>
      solution.control state time = .ok control ∧
        Follows solution (time + 1) rest (system.next state control)

/-- The squared distances between the controls of a sequence and those of the solution, each
multiplied by the divisor of its time. -/
def excess (K : Type) [Field K] [LinearOrder K] [IsStrictOrderedRing K] [ExactNumber α K]
    (solution : ClosedForm α) :
    (time : Nat) → (sequence : List α) → (state : α) → Except IndexError K
  | _, [], _ => .ok 0
  | time, control :: rest, state => do
      let divisor := (system.divisors solution)[←
        position 0 (system.divisors solution).length time]
      let optimal ← solution.control state time
      let later ← excess K solution (time + 1) rest (system.next state control)
      return ExactNumber.value divisor *
        (ExactNumber.value control - ExactNumber.value optimal) ^ 2 + later

/-! ### Solutions of the recursion -/

/-- The coefficients of a solution: terminal ones at the end, and each of the others one step before
those that follow it. -/
structure IsClosedForm (solution : ClosedForm α) (horizon : Nat) : Prop where
  length_eq : solution.costs.length = horizon + 1
  last : solution.costs[horizon]? = some system.terminalQuadratic
  step : ∀ time, time < horizon →
    solution.costs[time]? = solution.costs[time + 1]?.map system.costBefore
  laws_eq : solution.laws = solution.costs.tail.map system.lawBefore
  a_eq : solution.a = system.a
  b_eq : solution.b = system.b

theorem length_costsDownTo (last : Quadratic α) (steps : Nat) (later : List (Quadratic α)) :
    (system.costsDownTo last steps later).length = steps + 1 + later.length := by
  induction steps generalizing last later with
  | zero => simp [costsDownTo, Nat.add_comm]
  | succ steps ih =>
      rw [costsDownTo, ih, List.length_cons]
      omega

theorem getLast?_costsDownTo (last : Quadratic α) (steps : Nat) (later : List (Quadratic α)) :
    (system.costsDownTo last steps later).getLast? = (last :: later).getLast? := by
  induction steps generalizing last later with
  | zero => rfl
  | succ steps ih => rw [costsDownTo, ih, List.getLast?_cons_cons]

theorem isChain_costsDownTo {last : Quadratic α} (steps : Nat) {later : List (Quadratic α)}
    (hlater : List.IsChain (fun cost next => cost = system.costBefore next) (last :: later)) :
    List.IsChain (fun cost next => cost = system.costBefore next)
      (system.costsDownTo last steps later) := by
  induction steps generalizing last later with
  | zero => exact hlater
  | succ steps ih =>
      rw [costsDownTo]
      exact ih (List.isChain_cons_cons.mpr ⟨rfl, hlater⟩)

/-- What holds at the end and is kept by every step back holds for all coefficients. -/
theorem forall_mem_costsDownTo {holds : Quadratic α → Prop}
    (hbefore : ∀ next, holds next → holds (system.costBefore next)) {last : Quadratic α}
    (hlast : holds last) (steps : Nat) {later : List (Quadratic α)}
    (hlater : ∀ cost ∈ later, holds cost) :
    ∀ cost ∈ system.costsDownTo last steps later, holds cost := by
  induction steps generalizing last later with
  | zero => exact List.forall_mem_cons.mpr ⟨hlast, hlater⟩
  | succ steps ih =>
      rw [costsDownTo]
      exact ih (hbefore last hlast) (List.forall_mem_cons.mpr ⟨hlast, hlater⟩)

theorem isClosedForm_solveFrom (steps : Nat) :
    system.IsClosedForm (system.solveFrom system.terminalQuadratic steps) steps := by
  have hlength : (system.costsDownTo system.terminalQuadratic steps []).length = steps + 1 :=
    length_costsDownTo system _ _ _
  refine ⟨hlength, ?_, ?_, rfl, rfl, rfl⟩
  · have hlast := getLast?_costsDownTo system system.terminalQuadratic steps []
    rw [List.getLast?_eq_getElem?, hlength] at hlast
    exact hlast
  · intro time htime
    have hchain := List.isChain_iff_getElem.mp
      (isChain_costsDownTo system steps (List.isChain_singleton system.terminalQuadratic))
    have hnext : time + 1 < (system.costsDownTo system.terminalQuadratic steps []).length := by
      omega
    show (system.costsDownTo system.terminalQuadratic steps [])[time]? =
      (system.costsDownTo system.terminalQuadratic steps [])[time + 1]?.map system.costBefore
    rw [List.getElem?_eq_getElem hnext, List.getElem?_eq_getElem (Nat.lt_of_succ_lt hnext),
      Option.map_some, ← hchain time hnext]

variable {system}

/-- An accepted problem has a control weight above zero and a terminal weight that is not below it,
and its solution is the one of the recursion. -/
theorem solve_eq_ok {horizon : Int} {solution : ClosedForm α}
    (hsolve : system.solve horizon = .ok solution) :
    Number.atMost system.r Number.zero = false ∧
      Number.less system.terminalWeight Number.zero = false ∧
      solution = system.solveFrom system.terminalQuadratic horizon.toNat := by
  unfold solve at hsolve
  cases hweight : Number.atMost system.r Number.zero with
  | true =>
      rw [hweight] at hsolve
      cases hsolve
  | false =>
      cases hterminal : Number.less system.terminalWeight Number.zero with
      | true =>
          rw [hweight, hterminal] at hsolve
          cases hsolve
      | false =>
          rw [hweight, hterminal] at hsolve
          refine ⟨rfl, rfl, ?_⟩
          by_cases hhorizon : horizon < 0
          · simp only [hhorizon] at hsolve
            cases hsolve
          · cases hstorage : Storage.check [horizon.toNat + 1] with
            | error cause =>
                simp only [hhorizon, hstorage] at hsolve
                cases hsolve
            | ok granted =>
                simp only [hhorizon, hstorage] at hsolve
                exact (Except.ok.inj hsolve).symm

namespace IsClosedForm

variable {solution : ClosedForm α} {horizon : Nat}

theorem exists_cost (hclosed : system.IsClosedForm solution horizon) {time : Nat}
    (htime : time ≤ horizon) : ∃ cost, solution.costs[time]? = some cost :=
  ⟨_, List.getElem?_eq_getElem (by rw [hclosed.length_eq]; omega)⟩

theorem costToGo_eq {time : Nat} {cost : Quadratic α} (hcost : solution.costs[time]? = some cost)
    (state : α) : solution.costToGo state time = .ok (cost.at state) := by
  obtain ⟨htime, rfl⟩ := List.getElem?_eq_some_iff.mp hcost
  rw [ClosedForm.costToGo, position_of_lt 0 htime]
  rfl

theorem law_eq (hclosed : system.IsClosedForm solution horizon) {time : Nat}
    {next : Quadratic α} (hnext : solution.costs[time + 1]? = some next) :
    solution.laws[time]? = some (system.lawBefore next) := by
  rw [hclosed.laws_eq, List.getElem?_map, List.getElem?_tail, hnext, Option.map_some]

theorem control_eq (hclosed : system.IsClosedForm solution horizon) {time : Nat}
    {next : Quadratic α} (hnext : solution.costs[time + 1]? = some next) (state : α) :
    solution.control state time = .ok ((system.lawBefore next).at state) :=
  ClosedForm.control_eq_ok (hclosed.law_eq hnext) state

theorem divisor_eq {time : Nat} {next : Quadratic α}
    (hnext : solution.costs[time + 1]? = some next) :
    ∃ htime : time < (system.divisors solution).length,
      (system.divisors solution)[time] = system.divisor next := by
  apply List.getElem?_eq_some_iff.mp
  rw [divisors, List.getElem?_map, List.getElem?_tail, hnext, Option.map_some]

end IsClosedForm

/-! ### Costs of control sequences -/

theorem evaluate_stageCost (vectorized : Bool) {state control : α}
    (hfinite : Number.nonFinite? (system.stageCost state control) = none) (time : Int) :
    (system.problem vectorized).evaluate .stageCost state (some control) time =
      .ok (system.stageCost state control) := by
  simp [Problem.evaluate, Problem.callAt, problem, Problem.ofFunctions, Problem.acceptNumber,
    hfinite]

theorem evaluate_terminalCost (vectorized : Bool) {state : α}
    (hfinite : Number.nonFinite? (system.terminalCost state) = none) (time : Int) :
    (system.problem vectorized).evaluate .terminalCost state none time =
      .ok (system.terminalCost state) := by
  simp [Problem.evaluate, Problem.callAt, problem, Problem.ofFunctions, Problem.acceptNumber,
    hfinite]

open ExactNumber

variable {K : Type} [Field K] [LinearOrder K] [IsStrictOrderedRing K] [ExactNumber α K]

theorem value_at (cost : Quadratic α) (state : α) :
    (value (cost.at state) : K) = value cost.square * value state * value state +
      value cost.linear * value state + value cost.constant := by
  simp [Quadratic.at]

theorem value_terminalCost (state : α) :
    (value (system.terminalCost state) : K) = value (system.terminalQuadratic.at state) := by
  simp only [value_at, terminalCost, terminalQuadratic, value_mul, value_sub, value_ofInt]
  push_cast
  ring

theorem value_divisor (next : Quadratic α) :
    (value (system.divisor next) : K) =
      value system.r + value next.square * value system.b * value system.b := by
  simp [divisor]

/-- One step: the stage cost and the next cost-to-go make up the cost-to-go before, and the distance
between the control and the law. -/
theorem value_step {next : Quadratic α} (hdivisor : (value (system.divisor next) : K) ≠ 0)
    (state control : α) :
    (value (system.stageCost state control) : K) + value (next.at (system.next state control)) =
      value ((system.costBefore next).at state) + value (system.divisor next) *
        (value control - value ((system.lawBefore next).at state)) ^ 2 := by
  have hsquare := completing_square (value system.a) (value system.b) (value system.q)
    (value system.r) (value next.square) (value next.linear) (value next.constant) (value state)
    (value control) (value_divisor next) hdivisor
  simp only [value_at, stageCost, LinearQuadratic.next, costBefore, lawBefore, AffineLaw.at,
    value_add, value_mul, value_sub, value_div, value_neg, value_ofInt]
  push_cast
  exact hsquare

/-- One step of the excess: the divisor of the time, multiplied by the squared distance of the
control from the law. -/
theorem excess_cons {solution : ClosedForm α} {horizon : Nat}
    (hclosed : system.IsClosedForm solution horizon) {time : Nat} {next : Quadratic α}
    (hnext : solution.costs[time + 1]? = some next) (control state : α) (rest : List α) {later : K}
    (hlater : system.excess K solution (time + 1) rest (system.next state control) = .ok later) :
    system.excess K solution time (control :: rest) state =
      .ok (value (system.divisor next) *
        (value control - value ((system.lawBefore next).at state)) ^ 2 + later) := by
  obtain ⟨hbound, hdivisor⟩ := IsClosedForm.divisor_eq hnext
  rw [excess, position_of_lt 0 hbound, hclosed.control_eq hnext state, hlater]
  show Except.ok (value (system.divisors solution)[time] * _ + later) = _
  rw [hdivisor]

/-- The cost of a sequence exceeds the cost-to-go by the squared distances to the law, which are
zero just for the sequence that follows the law. -/
theorem rolloutCost_eq {solution : ClosedForm α} {horizon : Nat}
    (hclosed : system.IsClosedForm solution horizon)
    (hpositive : ∀ divisor ∈ system.divisors solution, (0 : K) < value divisor)
    (sequence : List α) {time : Nat} (hlength : time + sequence.length = horizon) (state : α) :
    ∃ cost penalty, solution.costToGo state time = .ok cost ∧
      system.excess K solution time sequence state = .ok penalty ∧
      (value (system.rolloutCost sequence state) : K) = value cost + penalty ∧
      0 ≤ penalty ∧ (penalty = 0 ↔ system.Follows solution time sequence state) := by
  induction sequence generalizing time state with
  | nil =>
      obtain rfl : time = horizon := hlength
      refine ⟨_, 0, IsClosedForm.costToGo_eq hclosed.last state, rfl, ?_, le_refl 0, ?_⟩
      · rw [rolloutCost, value_terminalCost, add_zero]
      · simp [Follows]
  | cons control rest ih =>
      rw [List.length_cons] at hlength
      have htime : time < horizon := by omega
      obtain ⟨next, hnext⟩ := hclosed.exists_cost htime
      have hcost := hclosed.step time htime
      rw [hnext, Option.map_some] at hcost
      obtain ⟨hbound, hdivisor⟩ := IsClosedForm.divisor_eq hnext
      have hpos : (0 : K) < value (system.divisor next) := by
        rw [← hdivisor]
        exact hpositive _ (List.getElem_mem hbound)
      obtain ⟨later, penalty, hlater, hexcess, hrollout, hnonneg, hfollows⟩ :=
        ih (by omega : time + 1 + rest.length = horizon) (system.next state control)
      have hnextCost := IsClosedForm.costToGo_eq hnext (system.next state control)
      rw [hlater] at hnextCost
      obtain rfl := Except.ok.inj hnextCost
      have hstep := value_step hpos.ne' state control
      have hsquare : (0 : K) ≤ value (system.divisor next) *
          (value control - value ((system.lawBefore next).at state)) ^ 2 :=
        mul_nonneg hpos.le (sq_nonneg _)
      refine ⟨_, value (system.divisor next) *
        (value control - value ((system.lawBefore next).at state)) ^ 2 + penalty,
        IsClosedForm.costToGo_eq hcost state, excess_cons hclosed hnext control state rest hexcess,
        ?_, by linarith, ?_⟩
      · rw [rolloutCost, value_add, hrollout]
        linarith
      · rw [Follows, hclosed.control_eq hnext state, ← hfollows,
          add_eq_zero_iff_of_nonneg hsquare hnonneg]
        apply and_congr_left
        intro _
        rw [mul_eq_zero, or_iff_right hpos.ne', sq_eq_zero_iff, sub_eq_zero,
          (value_injective (K := K)).eq_iff, Except.ok.injEq, eq_comm]

/-! ### The sequence that follows the law -/

/-- The controls that the laws give from a time on follow the law. -/
theorem follows_follow {solution : ClosedForm α} {horizon : Nat}
    (hclosed : system.IsClosedForm solution horizon) (steps : Nat) {time : Nat}
    (hsteps : time + steps = horizon) (state : α) :
    (ClosedForm.follow system.a system.b (solution.laws.drop time) state).2.length = steps ∧
      system.Follows solution time
        (ClosedForm.follow system.a system.b (solution.laws.drop time) state).2 state := by
  induction steps generalizing time state with
  | zero =>
      have hnone : solution.laws.drop time = [] := by
        apply List.drop_eq_nil_of_le
        rw [hclosed.laws_eq, List.length_map, List.length_tail, hclosed.length_eq]
        omega
      rw [hnone]
      exact ⟨rfl, trivial⟩
  | succ steps ih =>
      obtain ⟨next, hnext⟩ := hclosed.exists_cost (by omega : time + 1 ≤ horizon)
      obtain ⟨hbound, hentry⟩ := List.getElem?_eq_some_iff.mp (hclosed.law_eq hnext)
      obtain ⟨hlength, hfollows⟩ := ih (by omega : time + 1 + steps = horizon)
        (system.next state ((system.lawBefore next).at state))
      rw [List.drop_eq_getElem_cons hbound, hentry]
      exact ⟨congrArg Nat.succ hlength, hclosed.control_eq hnext state, hfollows⟩

/-- Costs added up from the left along the controls of laws are those added up from the right. -/
theorem addCosts_follow (vectorized : Bool) (laws : List (AffineLaw α)) (state sum : α)
    (time : Nat) :
    ∃ cost, (system.problem vectorized).addCosts sum time
        (ClosedForm.follow system.a system.b laws state).1
        (ClosedForm.follow system.a system.b laws state).2 = .ok cost ∧
      (value cost : K) = value sum + value (system.rolloutCost
        (ClosedForm.follow system.a system.b laws state).2 state) := by
  induction laws generalizing state sum time with
  | nil =>
      refine ⟨sum + system.terminalCost state, ?_, value_add _ _⟩
      rw [ClosedForm.follow, Problem.addCosts, evaluate_terminalCost _
        (nonFinite?_eq_none (K := K) _)]
      rfl
  | cons law rest ih =>
      obtain ⟨cost, hcosts, hvalue⟩ := ih (system.next state (law.at state))
        (sum + system.stageCost state (law.at state)) (time + 1)
      refine ⟨cost, ?_, ?_⟩
      · rw [ClosedForm.follow, Problem.addCosts, evaluate_stageCost _
          (nonFinite?_eq_none (K := K) _)]
        exact hcosts
      · rw [hvalue, value_add, ClosedForm.follow, rolloutCost, value_add, add_assoc]
        rfl

theorem length_follow (a b : α) (laws : List (AffineLaw α)) (state : α) :
    (ClosedForm.follow a b laws state).1.length =
      (ClosedForm.follow a b laws state).2.length + 1 := by
  induction laws generalizing state with
  | nil => rfl
  | cons law rest ih => exact congrArg Nat.succ (ih _)

theorem realizedCost_simulate {solution : ClosedForm α} {horizon : Nat}
    (hclosed : system.IsClosedForm solution horizon) (vectorized : Bool) (initial : α) :
    ∃ cost, (system.problem vectorized).realizedCost (solution.simulate initial).1
        (solution.simulate initial).2 = .ok cost ∧
      (value cost : K) = value (system.rolloutCost (solution.simulate initial).2 initial) := by
  rw [ClosedForm.simulate, hclosed.a_eq, hclosed.b_eq]
  obtain ⟨cost, hcosts, hvalue⟩ := addCosts_follow (K := K) vectorized
    solution.laws initial Number.zero 0
  refine ⟨cost, ?_, ?_⟩
  · rw [Problem.realizedCost, if_pos (length_follow _ _ _ _), hcosts]
    rfl
  · rw [hvalue, Number.zero, value_ofInt, Int.cast_zero, zero_add]

/-! ### Positive divisors -/

theorem divisor_pos (hr : (0 : K) < value system.r) {next : Quadratic α}
    (hnext : (0 : K) ≤ value next.square) : (0 : K) < value (system.divisor next) := by
  have hproduct : (0 : K) ≤ value next.square * value system.b * value system.b := by
    rw [mul_assoc]
    exact mul_nonneg hnext (mul_self_nonneg _)
  rw [value_divisor]
  linarith

/-- A state weight that is not negative keeps the quadratic coefficients so. -/
theorem square_costBefore_nonneg (hr : (0 : K) < value system.r) (hq : (0 : K) ≤ value system.q)
    {next : Quadratic α} (hnext : (0 : K) ≤ value next.square) :
    (0 : K) ≤ value (system.costBefore next).square := by
  have hproduct : (0 : K) ≤ value next.square * value system.a * value system.a *
      value system.r := by
    rw [mul_assoc (value next.square)]
    exact mul_nonneg (mul_nonneg hnext (mul_self_nonneg _)) hr.le
  have hquotient := div_nonneg hproduct (divisor_pos hr hnext).le
  simp only [costBefore, value_add, value_mul, value_div]
  linarith

/-- An accepted control weight is above zero. -/
theorem controlWeight_pos {horizon : Int} {solution : ClosedForm α}
    (hsolve : system.solve horizon = .ok solution) : (0 : K) < value system.r := by
  obtain ⟨hcontrol, _, _⟩ := solve_eq_ok hsolve
  rw [Bool.eq_false_iff, ne_eq, atMost_iff (K := K), Number.zero, value_ofInt, Int.cast_zero,
    not_le] at hcontrol
  exact hcontrol

/-- An accepted terminal weight is not below zero. -/
theorem terminalWeight_nonneg {horizon : Int} {solution : ClosedForm α}
    (hsolve : system.solve horizon = .ok solution) : (0 : K) ≤ value system.terminalWeight := by
  obtain ⟨_, hterminal, _⟩ := solve_eq_ok hsolve
  rw [Bool.eq_false_iff, ne_eq, less_iff (K := K), Number.zero, value_ofInt, Int.cast_zero,
    not_lt] at hterminal
  exact hterminal

/-- Without a negative state weight no square coefficient of the costs-to-go is negative. -/
theorem squares_nonneg {horizon : Int} {solution : ClosedForm α}
    (hsolve : system.solve horizon = .ok solution) (hweight : (0 : K) ≤ value system.q) :
    ∀ cost ∈ solution.costs, (0 : K) ≤ value cost.square := by
  have hr : (0 : K) < value system.r := controlWeight_pos hsolve
  have hlast : (0 : K) ≤ value system.terminalWeight := terminalWeight_nonneg hsolve
  obtain ⟨_, _, rfl⟩ := solve_eq_ok hsolve
  have hbefore : ∀ next : Quadratic α, (0 : K) ≤ value next.square →
      (0 : K) ≤ value (system.costBefore next).square :=
    fun _ => square_costBefore_nonneg hr hweight
  apply forall_mem_costsDownTo system hbefore hlast
  intro cost hmem
  exact absurd hmem List.not_mem_nil

/-- Without a negative state weight all divisors are above zero. -/
theorem divisors_pos {horizon : Int} {solution : ClosedForm α}
    (hsolve : system.solve horizon = .ok solution) (hweight : (0 : K) ≤ value system.q) :
    ∀ divisor ∈ system.divisors solution, (0 : K) < value divisor := by
  intro divisor hmem
  obtain ⟨next, hnext, rfl⟩ := List.mem_map.mp hmem
  exact divisor_pos (controlWeight_pos hsolve)
    (squares_nonneg hsolve hweight next (List.mem_of_mem_tail hnext))

/-! ### Optimality -/

/-- An accepted problem has positive divisors when its state weight is not negative.  With positive
divisors, every control sequence costs the cost-to-go and its squared distances to the law, so the
cost-to-go is the least cost, the sequences that follow the law are the ones that attain it, there
is one, and a simulation is one over the whole horizon. -/
theorem closedForm_isLeast {horizon : Int} {solution : ClosedForm α}
    (hsolve : system.solve horizon = .ok solution) :
    ((0 : K) ≤ value system.q →
      ∀ divisor ∈ system.divisors solution, (0 : K) < value divisor) ∧
    ((∀ divisor ∈ system.divisors solution, (0 : K) < value divisor) →
      (∀ (time : Nat) (sequence : List α), time + sequence.length = horizon.toNat →
        ∀ state, ∃ cost penalty, solution.costToGo state time = .ok cost ∧
          system.excess K solution time sequence state = .ok penalty ∧
          (value (system.rolloutCost sequence state) : K) = value cost + penalty ∧
          Number.atMost cost (system.rolloutCost sequence state) = true ∧
          (system.rolloutCost sequence state = cost ↔
            system.Follows solution time sequence state)) ∧
      (∀ time, time ≤ horizon.toNat → ∀ state, ∃ sequence,
        time + sequence.length = horizon.toNat ∧ system.Follows solution time sequence state) ∧
      ∀ (vectorized : Bool) (initial : α), ∃ cost, solution.costToGo initial 0 = .ok cost ∧
        (system.problem vectorized).realizedCost (solution.simulate initial).1
          (solution.simulate initial).2 = .ok cost) := by
  refine ⟨divisors_pos hsolve, fun hpositive => ?_⟩
  obtain ⟨_, _, rfl⟩ := solve_eq_ok hsolve
  have hclosed := isClosedForm_solveFrom system horizon.toNat
  refine ⟨?_, ?_, ?_⟩
  · intro time sequence hlength state
    obtain ⟨cost, penalty, hcost, hexcess, hrollout, hnonneg, hfollows⟩ :=
      rolloutCost_eq hclosed hpositive sequence hlength state
    refine ⟨cost, penalty, hcost, hexcess, hrollout, ?_, ?_⟩
    · rw [atMost_iff (K := K), hrollout]
      linarith
    · rw [← hfollows, ← (value_injective (K := K)).eq_iff, hrollout]
      constructor
      · intro hequal
        linarith
      · intro hzero
        rw [hzero, add_zero]
  · intro time htime state
    have hsteps : time + (horizon.toNat - time) = horizon.toNat := by omega
    obtain ⟨hlength, hfollows⟩ := follows_follow hclosed _ hsteps state
    exact ⟨_, by rw [hlength, hsteps], hfollows⟩
  · intro vectorized initial
    obtain ⟨hlength, hfollows⟩ := follows_follow hclosed horizon.toNat (Nat.zero_add _) initial
    obtain ⟨cost, penalty, hcost, _, hrollout, _, hzero⟩ :=
      rolloutCost_eq hclosed hpositive _ (by rw [hlength, Nat.zero_add]) initial
    rw [hzero.mpr hfollows, add_zero] at hrollout
    obtain ⟨sum, hsum, hvalue⟩ := realizedCost_simulate (K := K) hclosed vectorized initial
    have hequal : sum = cost := value_injective (K := K) (hvalue.trans hrollout)
    exact ⟨cost, hcost, hequal ▸ hsum⟩

/-- The tracking problem over two steps: no two controls cost less than the cost-to-go. -/
theorem tracking_closedForm_isLeast :
    ∃ solution, (Tracking.system Rat).solve 2 = .ok solution ∧
      ∀ (sequence : List Rat), 0 + sequence.length = 2 → ∀ state, ∃ cost,
        solution.costToGo state 0 = .ok cost ∧
          Number.atMost cost ((Tracking.system Rat).rolloutCost sequence state) = true := by
  have hsolve : (Tracking.system Rat).solve 2 =
      .ok ((Tracking.system Rat).solveFrom (Tracking.system Rat).terminalQuadratic 2) := by
    rfl
  refine ⟨_, hsolve, ?_⟩
  intro sequence hlength state
  have hweight : (0 : Rat) ≤ ExactNumber.value (Tracking.system Rat).q := zero_le_one
  obtain ⟨hdivisors, hoptimal⟩ := closedForm_isLeast (K := Rat) hsolve
  obtain ⟨hleast, _⟩ := hoptimal (hdivisors hweight)
  obtain ⟨cost, _, hcost, _, _, hatMost, _⟩ := hleast 0 sequence hlength state
  exact ⟨cost, hcost, hatMost⟩

end LinearQuadratic

end BellmanGrid
