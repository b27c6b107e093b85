import BellmanGrid.Proofs.DoubleSubtraction
import BellmanGrid.Proofs.FirstMinimum
import BellmanGrid.Proofs.SweepAgreement
import BellmanGrid.Proofs.Tracking

/-!
The Bellman equations have one solution, and a solve finds it.

At every time a state gets the least of the costs of its controls, and of the controls with that
cost the lowest one.  Two choices of this kind are equal, so from the last column backward two
tables that satisfy the equations are equal as well.  Nothing is said about sums: the order of the
quantities is enough, and it is that of doubles.
-/

namespace BellmanGrid

variable {α : Type} [Number α]

namespace Stage

variable {count : Nat}

/-- What has been passed over before the kept entry is above it, and the rest is not below it. -/
theorem less_firstSmallestFrom [LawfulDifference α] {entry : Fin count → α}
    (hfinite : ∀ index, Number.isFinite (entry index) = true) {start : Nat} {best : Fin count}
    (hpassed : ∀ index : Fin count, index.val < start →
      Number.atMost (entry best) (entry index) = true)
    (hbefore : ∀ index < best, Number.less (entry best) (entry index) = true)
    (hbest : best.val < start) (index : Fin count)
    (hindex : index < firstSmallestFrom entry start best) :
    Number.less (entry (firstSmallestFrom entry start best)) (entry index) = true := by
  fun_induction firstSmallestFrom entry start best with
  | case1 start best hstart ih =>
      by_cases hless : Number.less (entry ⟨start, hstart⟩) (entry best) = true
      · simp only [hless, if_true] at ih hindex ⊢
        apply ih _ _ (Nat.lt_succ_self start) hindex
        · intro other hother
          rcases Nat.lt_succ_iff_lt_or_eq.mp hother with hearlier | hequal
          · exact OrderedNumber.atMost_trans _ _ _ (OrderedNumber.atMost_of_less _ _ hless)
              (hpassed other hearlier)
          · rw [show other = ⟨start, hstart⟩ from Fin.ext hequal]
            exact OrderedNumber.atMost_refl _ (hfinite _)
        · intro other hother
          exact LawfulDifference.less_of_less_of_atMost hless (hpassed other hother)
      · simp only [hless] at ih hindex ⊢
        apply ih _ hbefore (Nat.lt_succ_of_lt hbest) hindex
        intro other hother
        rcases Nat.lt_succ_iff_lt_or_eq.mp hother with hearlier | hequal
        · exact hpassed other hearlier
        · rw [show other = ⟨start, hstart⟩ from Fin.ext hequal]
          exact OrderedNumber.atMost_of_not_less _ _ (hfinite _) (hfinite _)
            (Bool.eq_false_iff.mpr hless)
  | case2 start best hstart => exact hbefore index hindex

/-- The first smallest entry is below every entry before it. -/
theorem firstSmallest_less [LawfulDifference α] (hcount : 0 < count) {entry : Fin count → α}
    (hfinite : ∀ index, Number.isFinite (entry index) = true) (index : Fin count)
    (hindex : index < firstSmallest hcount entry) :
    Number.less (entry (firstSmallest hcount entry)) (entry index) = true := by
  apply less_firstSmallestFrom hfinite _ _ Nat.one_pos index hindex
  · intro first hfirst
    rw [show first = ⟨0, hcount⟩ from Fin.ext (Nat.lt_one_iff.mp hfirst)]
    exact OrderedNumber.atMost_refl _ (hfinite _)
  · intro first hfirst
    exact absurd hfirst (Nat.not_lt_zero _)

end Stage

namespace Grid

variable [LawfulDifference α] {grid : Grid α}

/-- Points are ordered as their indices are. -/
theorem lt_of_less_point {first second : Fin grid.size}
    (hless : Number.less (grid.point first) (grid.point second) = true) : first < second := by
  rcases lt_trichotomy first second with hlt | hequal | hgt
  · exact hlt
  · rw [hequal, LawfulDifference.not_less_self] at hless
    exact absurd hless Bool.false_ne_true
  · have hback := ((LawfulDifference.less_iff _ _).mp (grid.less_point hgt first.isLt)).1
    rw [((LawfulDifference.less_iff _ _).mp hless).2] at hback
    exact absurd hback Bool.false_ne_true

/-- Of two points one is below the other, unless they are equal. -/
theorem point_trichotomy {first second : α} (hfirst : first ∈ grid.points)
    (hsecond : second ∈ grid.points) :
    Number.less first second = true ∨ first = second ∨ Number.less second first = true := by
  obtain ⟨left, hleft, rfl⟩ := Array.mem_iff_getElem.mp hfirst
  obtain ⟨right, hright, rfl⟩ := Array.mem_iff_getElem.mp hsecond
  rcases Nat.lt_trichotomy left right with hlt | rfl | hgt
  · exact Or.inl (grid.less_point hlt hright)
  · exact Or.inr (Or.inl rfl)
  · exact Or.inr (Or.inr (grid.less_point hgt hleft))

end Grid

namespace Recursion

/-- The control of a grid with the least cost, and of several such controls the lowest one. -/
structure IsLowestCheapest (controls : Grid α) (costOf : α → Option α) (control cost : α) :
    Prop where
  mem : control ∈ controls.points
  attained : costOf control = some cost
  least : ∀ other ∈ controls.points, ∃ more, costOf other = some more ∧
    Number.atMost cost more = true
  lowest : ∀ other ∈ controls.points, Number.less other control = true →
    ∃ more, costOf other = some more ∧ Number.less cost more = true

variable (value : Role → (state : α) → (control : Option α) → (time : Int) → Option α)
variable (states controls : Grid α)

/-- A stage cost plus the next cost-to-go at the snapped successor, finite or not. -/
def sum? (next : Column α states.size) (time : Int) (state control : α) : Option α := do
  let successor ← value .dynamics state (some control) time
  let stage ← value .stageCost state (some control) time
  let later ← next.get (states.nearestIndex successor)
  return stage + later

/-- The Bellman equations: terminal costs in the last column, and at every time before it the
lowest of the cheapest controls with its cost, against the next column. -/
structure IsBellman {horizon : Nat} (table : Table α states.size horizon) : Prop where
  ends : ∀ state : Fin states.size, ∃ cost,
    value .terminalCost (states.point state) none horizon = some cost ∧
      (table.cost.get (Fin.last horizon)).get state = some cost
  stage : ∀ (time : Fin horizon) (state : Fin states.size), ∃ control cost,
    (table.policy.get time).get state = some control ∧
      (table.cost.get time.castSucc).get state = some cost ∧
      IsLowestCheapest controls
        (sum? value states (table.cost.get time.succ) time (states.point state)) control cost

variable {value states controls}

/-! ### One solution -/

section Unique

variable [LawfulDifference α]

/-- A lower control with the least cost would have to cost more. -/
theorem IsLowestCheapest.not_less {costOf : α → Option α} {control cost lower lowerCost : α}
    (hfirst : IsLowestCheapest controls costOf control cost)
    (hsecond : IsLowestCheapest controls costOf lower lowerCost) :
    ¬ Number.less lower control = true := by
  intro hless
  obtain ⟨more, hmore, habove⟩ := hfirst.lowest lower hsecond.mem hless
  obtain rfl : lowerCost = more := Option.some.inj (hsecond.attained.symm.trans hmore)
  obtain ⟨other, hother, hle⟩ := hsecond.least control hfirst.mem
  obtain rfl : cost = other := Option.some.inj (hfirst.attained.symm.trans hother)
  rw [((LawfulDifference.less_iff _ _).mp habove).2] at hle
  exact Bool.false_ne_true hle

theorem IsLowestCheapest.unique {costOf : α → Option α} {first firstCost second secondCost : α}
    (hfirst : IsLowestCheapest controls costOf first firstCost)
    (hsecond : IsLowestCheapest controls costOf second secondCost) :
    first = second ∧ firstCost = secondCost := by
  rcases Grid.point_trichotomy hfirst.mem hsecond.mem with hbelow | rfl | habove
  · exact absurd hbelow (hsecond.not_less hfirst)
  · exact ⟨rfl, Option.some.inj (hfirst.attained.symm.trans hsecond.attained)⟩
  · exact absurd habove (hfirst.not_less hsecond)

/-- Equal columns at a time have equal columns before them. -/
theorem IsBellman.columns_eq_of_succ {horizon : Nat} {first second : Table α states.size horizon}
    (hfirst : IsBellman value states controls first)
    (hsecond : IsBellman value states controls second) (time : Fin horizon)
    (hnext : first.cost.get time.succ = second.cost.get time.succ) :
    first.cost.get time.castSucc = second.cost.get time.castSucc ∧
      first.policy.get time = second.policy.get time := by
  have hcell : ∀ state : Fin states.size,
      (first.cost.get time.castSucc).get state = (second.cost.get time.castSucc).get state ∧
        (first.policy.get time).get state = (second.policy.get time).get state := by
    intro state
    obtain ⟨control, cost, hcontrol, hcost, hcheapest⟩ := hfirst.stage time state
    obtain ⟨other, otherCost, hother, hotherCost, hotherCheapest⟩ := hsecond.stage time state
    rw [hnext] at hcheapest
    obtain ⟨rfl, rfl⟩ := hcheapest.unique hotherCheapest
    exact ⟨hcost.trans hotherCost.symm, hcontrol.trans hother.symm⟩
  exact ⟨Vector.ext fun state hstate => (hcell ⟨state, hstate⟩).1,
    Vector.ext fun state hstate => (hcell ⟨state, hstate⟩).2⟩

/-- From the last column backward, the columns of two solutions are equal. -/
theorem IsBellman.cost_eq {horizon : Nat} {first second : Table α states.size horizon}
    (hfirst : IsBellman value states controls first)
    (hsecond : IsBellman value states controls second) (time : Fin (horizon + 1)) :
    first.cost.get time = second.cost.get time := by
  induction time using Fin.reverseInduction with
  | last =>
      apply Vector.ext
      intro state hstate
      obtain ⟨cost, hvalue, hcost⟩ := hfirst.ends ⟨state, hstate⟩
      obtain ⟨other, hotherValue, hother⟩ := hsecond.ends ⟨state, hstate⟩
      obtain rfl : cost = other := Option.some.inj (hvalue.symm.trans hotherValue)
      exact hcost.trans hother.symm
  | cast time ih => exact (hfirst.columns_eq_of_succ hsecond time ih).1

/-- The Bellman equations have at most one solution. -/
theorem IsBellman.unique {horizon : Nat} {first second : Table α states.size horizon}
    (hfirst : IsBellman value states controls first)
    (hsecond : IsBellman value states controls second) :
    first.cost = second.cost ∧ first.policy = second.policy := by
  constructor
  · exact Vector.ext fun time htime => hfirst.cost_eq hsecond ⟨time, htime⟩
  · apply Vector.ext
    intro time htime
    exact (hfirst.columns_eq_of_succ hsecond ⟨time, htime⟩ (hfirst.cost_eq hsecond _)).2

end Unique

/-! ### A solution -/

theorem sum?_of_candidate? {next : Column α states.size} {time : Int} {state control cost : α}
    (hcost : candidate? value states next time state control = some cost) :
    sum? value states next time state control = some cost := by
  obtain ⟨successor, stage, later, hsuccessor, hstage, hlater, rfl, _⟩ :=
    candidate?_eq_some_iff.mp hcost
  simp only [sum?, hsuccessor, hstage, hlater, Option.bind_eq_bind, Option.bind_some,
    Option.pure_def]

/-- The choice of a state is its lowest cheapest control. -/
theorem isLowestCheapest_of_choice? [LawfulDifference α] {next : Column α states.size}
    {time : Int} {state : α} {choice : Choice α}
    (hchoice : choice? value states controls next time state = some choice) :
    IsLowestCheapest controls (sum? value states next time state) choice.control
      choice.cost := by
  obtain ⟨costs, hcosts, best, rfl, rfl⟩ := choice?_eq_some hchoice
  have hfinite : ∀ index, Number.isFinite (costs.get index) = true := by
    intro index
    obtain ⟨_, _, _, _, _, _, _, hfinite⟩ := candidate?_eq_some_iff.mp (hcosts index)
    exact hfinite
  refine ⟨Array.getElem_mem _, sum?_of_candidate? (hcosts _), ?_, ?_⟩
  · intro other hother
    obtain ⟨index, hindex, rfl⟩ := Array.mem_iff_getElem.mp hother
    exact ⟨_, sum?_of_candidate? (hcosts ⟨index, hindex⟩),
      Stage.firstSmallest_atMost controls.size_pos hfinite ⟨index, hindex⟩⟩
  · intro other hother hlower
    obtain ⟨index, hindex, rfl⟩ := Array.mem_iff_getElem.mp hother
    have hbefore : (⟨index, hindex⟩ : Fin controls.size) <
        Stage.firstSmallest controls.size_pos costs.get := Grid.lt_of_less_point hlower
    exact ⟨_, sum?_of_candidate? (hcosts ⟨index, hindex⟩),
      Stage.firstSmallest_less controls.size_pos hfinite _ hbefore⟩

/-- What the recursion computes satisfies the Bellman equations. -/
theorem IsSolution.isBellman [LawfulDifference α] {horizon : Nat}
    {table : Table α states.size horizon} (hsolution : IsSolution value states controls table) :
    IsBellman value states controls table where
  ends state := by
    obtain ⟨cost, hcost, hvalue⟩ := hsolution.last state
    exact ⟨cost, hvalue, hcost⟩
  stage time state := by
    obtain ⟨choices, hchoices, hcost, hpolicy⟩ := hsolution.stage time
    have hchoice := ofFnM_eq_some_iff.mp hchoices state
    refine ⟨(choices.get state).control, (choices.get state).cost, ?_, ?_,
      isLowestCheapest_of_choice? hchoice⟩
    · rw [hpolicy, get_map]
    · rw [hcost, get_map]

end Recursion

namespace GridProblem

/-- The table of a solve satisfies the Bellman equations, with the lowest control wherever several
are cheapest.  Tables that satisfy the equations for the same callbacks and grids have the same
costs and the same controls, whatever the callbacks hand back. -/
theorem isBellman_of_solve [LawfulDifference α] {task : GridProblem α} {result : PointResult α}
    (hacts : task.problem.ActsAs result) {execution : Execution} {horizon : Nat}
    {table : Table α task.states.size horizon} (hsolve : task.solve execution horizon = .ok table) :
    Recursion.IsBellman result.finite? task.states task.controls table ∧
      ∀ (value : Role → α → Option α → Int → Option α)
        (first second : Table α task.states.size horizon),
        Recursion.IsBellman value task.states task.controls first →
        Recursion.IsBellman value task.states task.controls second →
          first.cost = second.cost ∧ first.policy = second.policy := by
  obtain ⟨hsolution, _⟩ := isSolution_of_solve hacts hsolve
  exact ⟨hsolution.isBellman, fun _ _ _ hfirst hsecond => hfirst.unique hsecond⟩

/-- The tracking problem in blocks of two states: its table satisfies the equations, and solving it
state by state gives the same costs and controls. -/
theorem tracking_isBellman :
    ∃ first second, (Tracking.task true).solve ⟨1, 2, by decide, by decide⟩ 2 = .ok first ∧
      (Tracking.task false).solve .standard 2 = .ok second ∧
      Recursion.IsBellman (Tracking.system Float).pointResult.finite? Tracking.grid Tracking.grid
        first ∧
      first.cost = second.cost ∧ first.policy = second.policy := by
  have hblocks : ((Tracking.task true).solve ⟨1, 2, by decide, by decide⟩ 2).toOption.isSome =
      true := by
    decide +kernel
  have hpoints : ((Tracking.task false).solve .standard 2).toOption.isSome = true := by
    decide +kernel
  obtain ⟨first, hfirst⟩ := Option.isSome_iff_exists.mp hblocks
  obtain ⟨second, hsecond⟩ := Option.isSome_iff_exists.mp hpoints
  rw [toOption_eq_some_iff] at hfirst hsecond
  obtain ⟨hbellman, hunique⟩ :=
    isBellman_of_solve ((Tracking.system Float).problem_actsAs true) hfirst
  obtain ⟨hother, _⟩ :=
    isBellman_of_solve ((Tracking.system Float).problem_actsAs false) hsecond
  exact ⟨first, second, hfirst, hsecond, hbellman, hunique _ first second hbellman hother⟩

end GridProblem

end BellmanGrid
