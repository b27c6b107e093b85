import BellmanGrid.Proofs.PointResults

/-!
What a rejected callback is reported with.

When callbacks give a number at every point that is evaluated, evaluation fails only because a
number is not finite, and the failure says which callback gave it, where, and what it is instead.
On a block the failure is the one of the first such position in row-major order.
-/

namespace BellmanGrid

variable {α β : Type}

namespace Problem

/-! ### The first rejected position -/

/-- The entry that is found is not finite, and those before it are. -/
theorem finite_before_firstNonFinite? {nonFinite? : β → Option NonFinite} {entries : Array β}
    {start position : Nat} {what : NonFinite}
    (hsome : firstNonFinite? nonFinite? entries start = some (position, what)) (index : Nat)
    (hstart : start ≤ index) (hbefore : index < position) (hindex : index < entries.size) :
    nonFinite? entries[index] = none := by
  fun_induction firstNonFinite? nonFinite? entries start with
  | case1 start hlt found hfound =>
      simp only [Option.some.injEq, Prod.mk.injEq] at hsome
      omega
  | case2 start hlt hfinite ih =>
      by_cases hequal : index = start
      · subst hequal
        exact hfinite
      · exact ih hsome (by omega)
  | case3 start hge => simp at hsome

/-- An array that fits is rejected at its first entry that is not finite. -/
theorem acceptArray_eq_error {nonFinite? : β → Option NonFinite} {convert : β → α}
    {shape : List Nat} {results : Tensor β} {entries : Vector (Except NonFinite α) (extent shape)}
    {error : Nat × Reason α}
    (hentries : (results.entries? shape).map (·.map (NonFinite.judge nonFinite? convert)) =
      some entries)
    (hfails : acceptArray nonFinite? shape results = .error error) :
    ∃ position what, error = (position.val, .notFinite what) ∧
      entries.get position = .error what ∧
      ∀ earlier < position, ∃ number, entries.get earlier = .ok number := by
  obtain ⟨raw, hraw, rfl⟩ := Option.map_eq_some_iff.mp hentries
  obtain ⟨expanded, hexpanded, hfitted⟩ := Option.bind_eq_some_iff.mp hraw
  have hsize := Tensor.size_of_expand? hexpanded
  rw [dif_pos hsize, Option.some.injEq] at hfitted
  subst hfitted
  rw [acceptArray, hexpanded] at hfails
  simp only at hfails
  split at hfails
  · next position what hfirst =>
      obtain ⟨hposition, hwhat⟩ := exists_of_firstNonFinite? hfirst
      refine ⟨⟨position, hsize ▸ hposition⟩, what, (Except.error.inj hfails).symm, ?_, ?_⟩
      · simp [get_eq_getElem, NonFinite.judge, hwhat]
      · intro earlier hearlier
        have hindex : earlier.val < expanded.data.size := by
          rw [hsize]
          exact earlier.isLt
        have hfinite := finite_before_firstNonFinite? hfirst earlier (Nat.zero_le _) hearlier hindex
        exact ⟨convert expanded.data[earlier.val], by
          simp [get_eq_getElem, NonFinite.judge, hfinite]⟩
  · rw [dif_pos hsize] at hfails
    cases hfails

variable [Number α] {problem : Problem α} {role : Role} {time : Int} {error : EvaluationError α}

/-- Where a callback gives a number at all, it is rejected for what it is instead of a finite
one. -/
theorem evaluate_eq_error (htime : IsWritableTime time) {state : α} {control : Option α}
    (hanswer : (problem.callAt role state control time).result?.isSome = true)
    (hfails : problem.evaluate role state control time = .error error) :
    ∃ what, (problem.callAt role state control time).result? = some (.error what) ∧
      error = .callback ⟨role, state, control, time, .notFinite what⟩ := by
  have hreport : ∀ reason : Reason α, CallbackFailure.report ⟨role, state, control, time, reason⟩ =
      .callback ⟨role, state, control, time, reason⟩ := by
    simp [CallbackFailure.report_eq_callback htime]
  unfold evaluate at hfails
  cases hreply : problem.callAt role state control time with
  | raised exception =>
      rw [hreply] at hanswer
      exact absurd hanswer Bool.false_ne_true
  | number result =>
      rw [hreply] at hfails
      cases hresult : Number.nonFinite? result with
      | none => simp [acceptNumber, hresult] at hfails
      | some what =>
          simp only [acceptNumber, hresult, hreport, Except.error.injEq] at hfails
          exact ⟨what, by simp [Reply.result?, NonFinite.judge, hresult], hfails.symm⟩
  | other value =>
      rw [hreply] at hfails hanswer
      cases hreal : value.toReal with
      | error cause =>
          simp [Reply.result?, hreal, Except.toOption] at hanswer
      | ok number =>
          cases hnumber : NonFinite.ofFloat? number with
          | none => simp [acceptValue, hreal, hnumber] at hfails
          | some what =>
              simp only [acceptValue, hreal, hnumber, hreport, Except.error.injEq] at hfails
              refine ⟨what, ?_, hfails.symm⟩
              simp [Reply.result?, hreal, NonFinite.judge, hnumber, Except.toOption]

/-- Where a reply holds numbers on the whole block, it is rejected at the first of them that is not
finite. -/
theorem evaluateBlock_eq_error {states : Tensor α} {controls : Option (Tensor α)} {shape : List Nat}
    {entries : Vector (Except NonFinite α) (extent shape)}
    (hreply : (problem.callOnBlock role states controls time).results? shape = some entries)
    (hstates : states.fits shape = true) (hcontrols : controls.any (!·.fits shape) = false)
    (hfails : problem.evaluateBlock role states controls time shape = .error error) :
    ∃ position what, entries.get position = .error what ∧
      (∀ earlier < position, ∃ number, entries.get earlier = .ok number) ∧
      error = failureAt role states controls time shape position.val (.notFinite what) := by
  have hreported : ∀ {rejected : Nat × Reason α},
      (∃ position what, rejected = (position.val, .notFinite what) ∧
        entries.get position = .error what ∧
        ∀ earlier < position, ∃ number, entries.get earlier = .ok number) →
      failureAt role states controls time shape rejected.1 rejected.2 = error →
      ∃ position what, entries.get position = .error what ∧
        (∀ earlier < position, ∃ number, entries.get earlier = .ok number) ∧
        error = failureAt role states controls time shape position.val (.notFinite what) := by
    rintro _ ⟨position, what, rfl, hwhat, hbefore⟩ rfl
    exact ⟨position, what, hwhat, hbefore, rfl⟩
  simp only [evaluateBlock, hstates, hcontrols, Bool.not_true, Bool.false_eq_true, if_false]
    at hfails
  cases hcall : problem.callOnBlock role states controls time with
  | raised exception =>
      rw [hcall] at hreply
      cases hreply
  | number results =>
      rw [hcall] at hreply hfails
      simp only at hfails
      cases hverdict : acceptArray (α := α) Number.nonFinite? shape results with
      | ok accepted =>
          rw [hverdict] at hfails
          cases hfails
      | error rejected =>
          rw [hverdict] at hfails
          exact hreported (acceptArray_eq_error hreply hverdict) (Except.error.inj hfails)
  | other value =>
      rw [hcall] at hreply hfails
      simp only [Reply.results?] at hreply
      split at hreply
      · next results hcomplex htensor =>
          simp only [acceptArrayValue, hcomplex, htensor, bind, Except.bind] at hfails
          cases hverdict : acceptArray (α := α) NonFinite.ofFloat? shape results with
          | ok accepted =>
              simp [hverdict, Except.map, pure, Except.pure] at hfails
          | error rejected =>
              simp only [hverdict, Except.map, pure, Except.pure, Bool.false_eq_true,
                if_false] at hfails
              exact hreported (acceptArray_eq_error hreply hverdict) (Except.error.inj hfails)
      · cases hreply

/-! ### Problems that act as a family of point results -/

namespace ActsAs

variable {result : PointResult α} {states controls : Grid α} {horizon : Nat}

theorem evaluate_eq_error (hacts : problem.ActsAs result) (hscalar : problem.vectorized = false)
    (hanswers : result.AnswersOn states controls horizon) (hhorizon : IsWritableTime horizon)
    {state : α} {control : Option α}
    (hevaluates : Evaluates states controls horizon role state control time)
    (hfails : problem.evaluate role state control time = .error error) :
    ∃ what, result role state control time = some (.error what) ∧
      error = .callback ⟨role, state, control, time, .notFinite what⟩ := by
  rw [← hacts.points hscalar]
  apply Problem.evaluate_eq_error (hevaluates.isWritableTime hhorizon) _ hfails
  rw [hacts.points hscalar]
  exact hanswers _ _ _ _ hevaluates

/-- On a block of states and controls the first pair in row-major order is reported. -/
theorem evaluatePairs_eq_error (hacts : problem.ActsAs result)
    (hvectorized : problem.vectorized = true) (hanswers : result.AnswersOn states controls horizon)
    (hrole : role.takesControl = true) {block : Array α} (hblock : 0 < block.size)
    (hstates : ∀ state ∈ block, state ∈ states.points) (hhorizon : IsWritableTime horizon)
    {time : Nat} (htime : time < horizon)
    (hfails : problem.evaluateBlock role (Tensor.column block)
      (some (Tensor.flatRow controls.points)) time [block.size, controls.size] = .error error) :
    ∃ (position : Fin (extent [block.size, controls.size])) (what : NonFinite),
      result role (Stage.stateAt block position)
        (some (controls.point (Stage.columnOf position))) time = some (.error what) ∧
      (∀ earlier < position, ∃ number, result role (Stage.stateAt block earlier)
        (some (controls.point (Stage.columnOf earlier))) time = some (.ok number)) ∧
      error = .callback ⟨role, Stage.stateAt block position,
        some (controls.point (Stage.columnOf position)), time, .notFinite what⟩ := by
  have hreply : (problem.callOnBlock role (Tensor.column block)
        (some (Tensor.flatRow controls.points)) time).results? [block.size, controls.size] =
      Vector.ofFnM fun position => result role (Stage.stateAt block position)
        (some (controls.point (Stage.columnOf position))) time :=
    hacts.pairs hvectorized role block controls.points time hrole hblock controls.size_pos
  obtain ⟨entries, hentries⟩ : ∃ entries, (Vector.ofFnM
      fun position : Fin (extent [block.size, controls.size]) => result role
        (Stage.stateAt block position) (some (controls.point (Stage.columnOf position))) time) =
          some entries := by
    rw [← Option.isSome_iff_exists, Option.isSome_iff_ne_none, ne_eq, ofFnM_eq_none_iff]
    rintro ⟨position, hnone⟩
    have hanswer := hanswers _ _ _ _ (.pair hrole
      (hstates (Stage.stateAt block position) (Array.getElem_mem _))
      (controls.point_mem (Stage.columnOf position)) htime)
    rw [hnone] at hanswer
    exact Bool.false_ne_true hanswer
  have hpoint := ofFnM_eq_some_iff.mp hentries
  obtain ⟨position, what, hwhat, hbefore, rfl⟩ := evaluateBlock_eq_error (hreply.trans hentries)
    (Tensor.fits_column block controls.size)
    (by simp [Tensor.fits_flatRow block.size controls.points, Grid.size]) hfails
  refine ⟨position, what, by rw [hpoint, hwhat], fun earlier hearlier => ?_, ?_⟩
  · obtain ⟨number, hnumber⟩ := hbefore earlier hearlier
    exact ⟨number, by rw [hpoint, hnumber]⟩
  · exact failureAt_pair role block controls.points (hhorizon.of_le (Nat.le_of_lt htime)) position _

end ActsAs

end Problem

end BellmanGrid
