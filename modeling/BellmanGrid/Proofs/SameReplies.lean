import BellmanGrid.Proofs.Agreement
import BellmanGrid.Sweep.Solve

/-!
Problems whose callbacks give the same replies.

A reply does not show at which time it was given, and what is made of it depends on the reply alone.
So two problems whose callbacks reply alike, each at a time of its own, have the same choices there,
although their failures name different times.
-/

namespace BellmanGrid

variable {α : Type}

namespace Problem

/-- The callbacks of a step give the same replies, those of each problem at a time of its own. -/
structure StepsAlike (first second : Problem α) (firstTime secondTime : Int) : Prop where
  vectorized : first.vectorized = second.vectorized
  dynamics : ∀ state control,
    first.dynamics state control firstTime = second.dynamics state control secondTime
  stageCost : ∀ state control,
    first.stageCost state control firstTime = second.stageCost state control secondTime
  dynamicsBlock : ∀ states controls,
    first.dynamicsBlock states controls firstTime = second.dynamicsBlock states controls secondTime
  stageCostBlock : ∀ states controls,
    first.stageCostBlock states controls firstTime =
      second.stageCostBlock states controls secondTime

/-- The terminal costs give the same replies, those of each problem at a time of its own. -/
structure EndsAlike (first second : Problem α) (firstTime secondTime : Int) : Prop where
  vectorized : first.vectorized = second.vectorized
  terminalCost : ∀ state, first.terminalCost state firstTime = second.terminalCost state secondTime
  terminalCostBlock : ∀ states,
    first.terminalCostBlock states firstTime = second.terminalCostBlock states secondTime

/-- No callback looks at the time. -/
structure TimeInvariant (problem : Problem α) : Prop where
  steps : ∀ first second : Int, problem.StepsAlike problem first second
  ends : ∀ first second : Int, problem.EndsAlike problem first second

theorem shift_stepsAlike (problem : Problem α) (offset time : Nat) :
    (problem.shift offset).StepsAlike problem time (offset + time : Nat) := by
  have htime : ((offset + time : Nat) : Int) = (time : Int) + offset := by omega
  rw [htime]
  exact ⟨rfl, fun _ _ => rfl, fun _ _ => rfl, fun _ _ => rfl, fun _ _ => rfl⟩

theorem shift_endsAlike (problem : Problem α) (offset time : Nat) :
    (problem.shift offset).EndsAlike problem time (offset + time : Nat) := by
  have htime : ((offset + time : Nat) : Int) = (time : Int) + offset := by omega
  rw [htime]
  exact ⟨rfl, fun _ => rfl, fun _ => rfl⟩

variable [Number α] {first second : Problem α} {firstTime secondTime : Int}

/-! ### Evaluation -/

theorem toOption_evaluate_congr (role : Role) {state : α} (control : Option α)
    (hreply : first.callAt role state control firstTime =
      second.callAt role state control secondTime) :
    (first.evaluate role state control firstTime).toOption =
      (second.evaluate role state control secondTime).toOption := by
  unfold evaluate
  rw [hreply]
  cases second.callAt role state control secondTime with
  | raised exception => cases exception <;> rfl
  | number result =>
      simp only
      cases acceptNumber (α := α) result <;> rfl
  | other value =>
      simp only
      cases acceptValue (α := α) value with
      | error cause => rfl
      | ok verdict => cases verdict <;> rfl

theorem toOption_evaluateBlock_congr (role : Role) {states : Tensor α}
    (controls : Option (Tensor α))
    (hreply : first.callOnBlock role states controls firstTime =
      second.callOnBlock role states controls secondTime) (shape : List Nat) :
    (first.evaluateBlock role states controls firstTime shape).toOption =
      (second.evaluateBlock role states controls secondTime shape).toOption := by
  unfold evaluateBlock
  rw [hreply]
  simp only
  split
  · rfl
  · split
    · rfl
    · cases second.callOnBlock role states controls secondTime with
      | raised exception => cases exception <;> rfl
      | number results =>
          simp only
          cases acceptArray (α := α) Number.nonFinite? shape results <;> rfl
      | other value =>
          simp only
          cases acceptArrayValue (α := α) shape value with
          | error cause => rfl
          | ok verdict => cases verdict <;> rfl

end Problem

variable [Number α]

/-! ### Choices -/

namespace Choice

variable {ε δ : Type} {count : Nat}

theorem toOption_searchFrom_congr {first : Fin count → Except ε (Choice α)}
    {second : Fin count → Except δ (Choice α)}
    (hcandidate : ∀ index, (first index).toOption = (second index).toOption) (start : Nat)
    (best : Choice α) :
    (searchFrom first start best).toOption = (searchFrom second start best).toOption := by
  fun_induction searchFrom first start best with
  | case1 start best hstart found hfound ih =>
      have hsecond : second ⟨start, hstart⟩ = .ok found := by
        rw [← toOption_eq_some_iff, ← hcandidate, hfound]
        rfl
      rw [ih, searchFrom.eq_def second start, dif_pos hstart, hsecond]
  | case2 start best hstart error herror =>
      have hnone : (second ⟨start, hstart⟩).toOption = none := by
        rw [← hcandidate, herror]
        rfl
      rw [searchFrom, dif_pos hstart]
      cases hsecond : second ⟨start, hstart⟩ with
      | error _ => rfl
      | ok found =>
          rw [hsecond] at hnone
          cases hnone
  | case3 start best hstart =>
      rw [searchFrom, dif_neg hstart]
      rfl

theorem toOption_search_congr (hcount : 0 < count) {first : Fin count → Except ε (Choice α)}
    {second : Fin count → Except δ (Choice α)}
    (hcandidate : ∀ index, (first index).toOption = (second index).toOption) :
    (search hcount first).toOption = (search hcount second).toOption := by
  simp only [search, toOption_bind, hcandidate]
  congr 1
  funext best
  exact toOption_searchFrom_congr hcandidate 1 best

end Choice

namespace Stage

variable {first second : Problem α} {firstTime secondTime : Int} {states controls : Grid α}

theorem toOption_sumAt (state control : α) (time : Int) (stage : α) (next : Option α) :
    (sumAt state control time stage next).toOption = sum? stage next := by
  unfold sumAt
  cases sum? stage next <;> rfl

theorem toOption_choose_congr (halike : first.StepsAlike second firstTime secondTime)
    (next : Column α states.size) (state : α) :
    (choose first states controls next firstTime state).toOption =
      (choose second states controls next secondTime state).toOption := by
  apply Choice.toOption_search_congr
  intro control
  have hdynamics := Problem.toOption_evaluate_congr .dynamics
    (some (controls.point control)) (halike.dynamics state (controls.point control))
  have hstage := Problem.toOption_evaluate_congr .stageCost
    (some (controls.point control)) (halike.stageCost state (controls.point control))
  simp only [candidate, toOption_bind, hdynamics, hstage, toOption_sumAt]

theorem toOption_chooseBlock_congr (halike : first.StepsAlike second firstTime secondTime)
    (next : Column α states.size) (block : Array α) :
    (chooseBlock first states controls next firstTime block).toOption =
      (chooseBlock second states controls next secondTime block).toOption := by
  have hdynamics := Problem.toOption_evaluateBlock_congr .dynamics
    (some (Tensor.flatRow controls.points))
    (halike.dynamicsBlock (Tensor.column block) (Tensor.flatRow controls.points))
    [block.size, controls.size]
  have hstage := Problem.toOption_evaluateBlock_congr .stageCost
    (some (Tensor.flatRow controls.points))
    (halike.stageCostBlock (Tensor.column block) (Tensor.flatRow controls.points))
    [block.size, controls.size]
  have hsums : ∀ successors stages,
      (blockSums states controls next firstTime block successors stages).toOption =
        (blockSums states controls next secondTime block successors stages).toOption := by
    intro successors stages
    apply toOption_ofFnM_congr
    intro position
    rw [toOption_sumAt, toOption_sumAt]
  simp only [chooseBlock, toOption_bind, hdynamics, hstage, hsums]

end Stage

namespace GridProblem

variable {first second : Problem α} {firstTime secondTime : Nat} {states controls : Grid α}

/-- Where the callbacks of a step reply alike, a block has the same choices. -/
theorem toOption_chooseRows_congr (halike : first.StepsAlike second firstTime secondTime)
    (next : Column α states.size) (block : Block) :
    (chooseRows ⟨first, states, controls⟩ next firstTime block).toOption =
      (chooseRows ⟨second, states, controls⟩ next secondTime block).toOption := by
  simp only [chooseRows, halike.vectorized]
  split
  · exact Stage.toOption_chooseBlock_congr halike next _
  · apply toOption_mapM_congr
    intro state _
    exact Stage.toOption_choose_congr halike next state

/-- Where the terminal costs reply alike, the last columns are the same. -/
theorem toOption_terminalCosts_congr (halike : first.EndsAlike second firstTime secondTime) :
    (terminalCosts ⟨first, states, controls⟩ firstTime).toOption =
      (terminalCosts ⟨second, states, controls⟩ secondTime).toOption := by
  simp only [terminalCosts, halike.vectorized]
  split
  · have hblock := Problem.toOption_evaluateBlock_congr .terminalCost none
      (halike.terminalCostBlock (Tensor.row states.points)) [states.size]
    rw [toOption_map, toOption_map, hblock]
  · apply toOption_mapM_congr
    intro state _
    exact Problem.toOption_evaluate_congr .terminalCost none (halike.terminalCost state)

end GridProblem

end BellmanGrid
