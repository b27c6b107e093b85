import BellmanGrid.Proofs.BellmanEquations
import BellmanGrid.Proofs.Optimality

/-!
The stored controls are the first of the optimal sequences.

A table breaks ties one step at a time: of the cheapest controls of a state it keeps the lowest.  In
exact arithmetic the stage cost that two equal totals begin with cancels, so an optimal sequence is
an optimal control and, from its successor, an optimal sequence again.  Hence the stored controls
come before every other optimal sequence in lexicographic order, although the states behind two
different first controls have nothing to do with each other.
-/

namespace BellmanGrid

variable {α : Type} [Number α]

/-- The sequences are equal, or the first one is earlier in lexicographic order. -/
def LexAtMost (sequence other : List α) : Prop :=
  sequence = other ∨
    List.Lex (fun first second => Number.less first second = true) sequence other

theorem LexAtMost.cons {sequence other : List α} (control : α) (hle : LexAtMost sequence other) :
    LexAtMost (control :: sequence) (control :: other) := by
  rcases hle with rfl | hlex
  · exact Or.inl rfl
  · exact Or.inr (List.Lex.cons hlex)

namespace Recursion

variable (value : Role → (state : α) → (control : Option α) → (time : Int) → Option α)
variable (states controls : Grid α)

/-- So many controls of the grid, with a given total on the snapped system. -/
structure Attains (time steps : Nat) (state : Fin states.size) (cost : α) (sequence : List α) :
    Prop where
  length : sequence.length = steps
  onGrid : ∀ control ∈ sequence, control ∈ controls.points
  total : total value states time sequence state = some cost

variable {value states controls}

theorem total_cons_eq_some_iff {time : Nat} {control : α} {rest : List α} {state : Fin states.size}
    {cost : α} :
    total value states time (control :: rest) state = some cost ↔
      ∃ successor stage later,
        value .dynamics (states.point state) (some control) time = some successor ∧
        value .stageCost (states.point state) (some control) time = some stage ∧
        total value states (time + 1) rest (states.nearestIndex successor) = some later ∧
        stage + later = cost := by
  simp only [total, Option.bind_eq_bind, Option.bind_eq_some_iff, Option.pure_def,
    Option.some.injEq]
  constructor
  · rintro ⟨successor, hsuccessor, stage, hstage, later, hlater, hcost⟩
    exact ⟨successor, stage, later, hsuccessor, hstage, hlater, hcost⟩
  · rintro ⟨successor, stage, later, hsuccessor, hstage, hlater, hcost⟩
    exact ⟨successor, hsuccessor, stage, hstage, later, hlater, hcost⟩

theorem follow_cons_eq_some_iff {column : Column α states.size} {rest : List (Column α states.size)}
    {time : Nat} {state : Fin states.size} {sequence : List α} :
    follow value states (column :: rest) time state = some sequence ↔
      ∃ control successor later, column.get state = some control ∧
        value .dynamics (states.point state) (some control) time = some successor ∧
        follow value states rest (time + 1) (states.nearestIndex successor) = some later ∧
        control :: later = sequence := by
  simp only [follow, Option.bind_eq_bind, Option.bind_eq_some_iff, Option.pure_def,
    Option.some.injEq]
  constructor
  · rintro ⟨control, hcontrol, successor, hsuccessor, later, hlater, hsequence⟩
    exact ⟨control, successor, later, hcontrol, hsuccessor, hlater, hsequence⟩
  · rintro ⟨control, successor, later, hcontrol, hsuccessor, hlater, hsequence⟩
    exact ⟨control, hcontrol, successor, hsuccessor, later, hlater, hsequence⟩

section Exact

variable (K : Type) [Field K] [LinearOrder K] [IsStrictOrderedRing K] [ExactDistance α K]
variable {horizon : Nat} {table : Table α states.size horizon}

include K

/-- An optimal sequence begins with an optimal control, and what follows is optimal from the
successor of that control. -/
theorem IsSolution.attains_rest (hsolution : IsSolution value states controls table)
    (hcomplete : table.isComplete = true) (time : Fin horizon) {state : Fin states.size}
    {control cost : α} {rest : List α} {steps : Nat} (hsteps : time + (steps + 1) = horizon)
    (hcost : (table.cost.get time.castSucc).get state = some cost)
    (hattains : Attains value states controls time (steps + 1) state cost (control :: rest)) :
    sum? value states (table.cost.get time.succ) time (states.point state) control = some cost ∧
      ∃ successor later,
        value .dynamics (states.point state) (some control) time = some successor ∧
        (table.cost.get time.succ).get (states.nearestIndex successor) = some later ∧
        Attains value states controls (time + 1) steps (states.nearestIndex successor) later
          rest := by
  have := ExactNumber.monotoneNumber (α := α) K
  have hlength : rest.length = steps := Nat.succ.inj hattains.length
  have hrestGrid : ∀ other ∈ rest, other ∈ controls.points := fun other hother =>
    hattains.onGrid other (List.mem_cons_of_mem control hother)
  obtain ⟨successor, stage, sum, hdynamics, hstage, hsum, rfl⟩ :=
    total_cons_eq_some_iff.mp hattains.total
  obtain ⟨later, found, hlater, hfound, hbelow⟩ := hsolution.cost_atMost_total hcomplete rest
    hrestGrid (Nat.succ_le_of_lt time.isLt) (by omega) (states.nearestIndex successor)
  obtain rfl : sum = found := Option.some.inj (hsum.symm.trans hfound)
  have hcandidate : sum? value states (table.cost.get time.succ) time (states.point state)
      control = some (stage + later) := by
    have hnext : (table.cost.get time.succ).get (states.nearestIndex successor) = some later :=
      hlater
    simp only [sum?, hdynamics, hstage, hnext, Option.bind_eq_bind, Option.bind_some,
      Option.pure_def]
  -- The first control costs at least the optimum, so the rest is no more than the next optimum.
  obtain ⟨_, _, least, hleast, _, hcheapest⟩ := hsolution.step time state
  obtain rfl : stage + sum = least := Option.some.inj (hcost.symm.trans hleast)
  obtain ⟨index, hindex, rfl⟩ :=
    Array.mem_iff_getElem.mp (hattains.onGrid control List.mem_cons_self)
  obtain ⟨other, hother, hle⟩ := hcheapest ⟨index, hindex⟩
  obtain rfl : stage + later = other :=
    Option.some.inj (hcandidate.symm.trans (sum?_of_candidate? hother))
  have hequal : later = sum := by
    rw [ExactNumber.atMost_iff (K := K)] at hbelow hle
    rw [ExactNumber.value_add, ExactNumber.value_add] at hle
    exact ExactNumber.value_injective (K := K) (le_antisymm hbelow (le_of_add_le_add_left hle))
  subst hequal
  exact ⟨hcandidate, successor, later, hdynamics, hlater, hlength, hrestGrid, hsum⟩

/-- The stored controls come first among the sequences with the stored cost. -/
theorem IsSolution.follow_lexAtMost (hsolution : IsSolution value states controls table)
    (hcomplete : table.isComplete = true) (steps : Nat) {time : Nat} (htime : time < horizon + 1)
    (hsteps : time + steps = horizon) {state : Fin states.size} {cost : α}
    {sequence other : List α}
    (hfollow : follow value states (table.policy.toList.drop time) time state = some sequence)
    (hcost : (table.cost.get ⟨time, htime⟩).get state = some cost)
    (hother : Attains value states controls time steps state cost other) :
    LexAtMost sequence other := by
  have := ExactDistance.lawfulDifference (α := α) K
  induction steps generalizing time state cost sequence other with
  | zero =>
      rw [List.drop_eq_nil_of_le (by simp; omega)] at hfollow
      obtain rfl : [] = sequence := Option.some.inj hfollow
      exact Or.inl (List.length_eq_zero_iff.mp hother.length).symm
  | succ steps ih =>
      have hstage : time < horizon := by omega
      obtain _ | ⟨control, rest⟩ := other
      · exact absurd hother.length (Nat.succ_ne_zero steps).symm
      · rw [drop_toList table.policy hstage, follow_cons_eq_some_iff] at hfollow
        obtain ⟨stored, reached, sequence, hstored, hreached, hrest, rfl⟩ := hfollow
        obtain ⟨hsum, successor, later, hdynamics, hlater, hattains⟩ :=
          hsolution.attains_rest K hcomplete ⟨time, hstage⟩ hsteps hcost hother
        obtain ⟨lowest, least, hlowest, hleast, hcheapest⟩ :=
          hsolution.isBellman.stage ⟨time, hstage⟩ state
        obtain rfl : stored = lowest := Option.some.inj (hstored.symm.trans hlowest)
        obtain rfl : cost = least := Option.some.inj (hcost.symm.trans hleast)
        rcases Grid.point_trichotomy hcheapest.mem (hother.onGrid control List.mem_cons_self)
          with hbelow | rfl | habove
        · exact Or.inr (List.Lex.rel hbelow)
        · obtain rfl : reached = successor := Option.some.inj (hreached.symm.trans hdynamics)
          exact (ih (Nat.succ_lt_succ hstage) (by omega) hrest hlater hattains).cons stored
        · -- A lower control of the same cost would have been kept.
          obtain ⟨more, hmore, hless⟩ :=
            hcheapest.lowest control (hother.onGrid control List.mem_cons_self) habove
          obtain rfl : cost = more := Option.some.inj (hsum.symm.trans hmore)
          rw [LawfulDifference.not_less_self] at hless
          exact absurd hless Bool.false_ne_true

end Exact

end Recursion

/-- The tracking system where only the end costs. -/
def Tracking.endSystem : LinearQuadratic Rat :=
  { Tracking.system Rat with q := 0, r := 0 }

def Tracking.endTask : GridProblem Rat :=
  ⟨Tracking.endSystem.problem true, Tracking.rationalGrid, Tracking.rationalGrid⟩

namespace GridProblem

/-- In exact arithmetic the stored controls give, from every state and time, the lexicographically
first of the control sequences whose total on the snapped system is the stored cost. -/
theorem follow_isLexFirst_of_solve (K : Type) [Field K] [LinearOrder K] [IsStrictOrderedRing K]
    [ExactDistance α K] {task : GridProblem α} {result : PointResult α}
    (hacts : task.problem.ActsAs result) {execution : Execution} {horizon : Nat}
    {table : Table α task.states.size horizon} (hsolve : task.solve execution horizon = .ok table)
    (state : Fin task.states.size) {time : Nat} (htime : time < horizon + 1) :
    ∃ cost sequence, (table.cost.get ⟨time, htime⟩).get state = some cost ∧
      Recursion.follow result.finite? task.states (table.policy.toList.drop time) time state =
        some sequence ∧
      Recursion.Attains result.finite? task.states task.controls time (horizon - time) state cost
        sequence ∧
      ∀ other, Recursion.Attains result.finite? task.states task.controls time (horizon - time)
        state cost other → LexAtMost sequence other := by
  have := ExactNumber.monotoneNumber (α := α) K
  obtain ⟨hsolution, hcomplete⟩ := isSolution_of_solve hacts hsolve
  have hsteps : time + (horizon - time) = horizon := by omega
  obtain ⟨sequence, cost, hfollow, hlength, hgrid, hcost, htotal⟩ :=
    hsolution.follow_attains (horizon - time) hsteps state
  refine ⟨cost, sequence, hcost, hfollow, ⟨hlength, hgrid, htotal⟩, ?_⟩
  intro other hother
  exact hsolution.follow_lexAtMost K hcomplete (horizon - time) htime hsteps hfollow hcost hother

/-- Where only the end costs, the highest state can be left and reached again or be kept.  The
stored controls leave it. -/
theorem tracking_follow_isLexFirst :
    ∃ table, solve Tracking.endTask .standard 2 = .ok table ∧
      Recursion.follow Tracking.endSystem.pointResult.finite? Tracking.rationalGrid
        table.policy.toList 0 ⟨2, by decide⟩ = some [-1, 1] ∧
      Recursion.Attains Tracking.endSystem.pointResult.finite? Tracking.rationalGrid
        Tracking.rationalGrid 0 2 ⟨2, by decide⟩ 1 [0, 0] ∧
      LexAtMost ([-1, 1] : List Rat) [0, 0] := by
  have hvalue : (solve Tracking.endTask .standard 2).toOption.map (fun table =>
      ((table.cost.get 0).get ⟨2, by decide⟩,
        Recursion.follow Tracking.endSystem.pointResult.finite? Tracking.rationalGrid
          table.policy.toList 0 ⟨2, by decide⟩)) = some (some 1, some [-1, 1]) := by
    decide +kernel
  obtain ⟨table, htable, hcells⟩ := Option.map_eq_some_iff.mp hvalue
  rw [toOption_eq_some_iff] at htable
  obtain ⟨hone, hleave⟩ := Prod.mk.inj hcells
  have hkeep : Recursion.Attains Tracking.endSystem.pointResult.finite? Tracking.rationalGrid
      Tracking.rationalGrid 0 2 ⟨2, by decide⟩ 1 [0, 0] :=
    ⟨rfl, by decide +kernel, by decide +kernel⟩
  obtain ⟨cost, sequence, hcost, hfollow, _, hfirst⟩ := follow_isLexFirst_of_solve Rat
    (Tracking.endSystem.problem_actsAs true) htable ⟨2, by decide⟩ (Nat.zero_lt_succ 2)
  obtain rfl : cost = 1 := Option.some.inj (hcost.symm.trans hone)
  obtain rfl : sequence = [-1, 1] := Option.some.inj (hfollow.symm.trans hleave)
  exact ⟨table, htable, hleave, hkeep, hfirst [0, 0] hkeep⟩

end GridProblem

end BellmanGrid
