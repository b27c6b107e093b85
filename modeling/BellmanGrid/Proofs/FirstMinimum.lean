import BellmanGrid.Proofs.Agreement
import BellmanGrid.Proofs.OrderLaws
import BellmanGrid.Sweep.Stage

/-!
The first of the smallest entries, found in two ways.

A running minimum that evaluates candidates one after the other and the position of the first
smallest entry of a finished row make the same choice.  The chosen entry is at most every other one
when the comparisons order the finite quantities.
-/

namespace BellmanGrid

variable {α ε : Type} [Number α] {count : Nat}

namespace Stage

/-- What has been passed over is at least the entry that is kept. -/
theorem firstSmallestFrom_atMost [OrderedNumber α] {entry : Fin count → α}
    (hfinite : ∀ index, Number.isFinite (entry index) = true) {start : Nat} {best : Fin count}
    (hpassed : ∀ index : Fin count, index.val < start →
      Number.atMost (entry best) (entry index) = true) (index : Fin count) :
    Number.atMost (entry (firstSmallestFrom entry start best)) (entry index) = true := by
  fun_induction firstSmallestFrom entry start best with
  | case1 start best hstart ih =>
      apply ih
      intro other hother
      by_cases hless : Number.less (entry ⟨start, hstart⟩) (entry best) = true
      · rw [dif_pos hless]
        by_cases hsame : other = ⟨start, hstart⟩
        · rw [hsame]
          exact OrderedNumber.atMost_refl _ (hfinite _)
        · have hbefore : other.val < start := by
            have hne : other.val ≠ start := fun hequal => hsame (Fin.ext hequal)
            omega
          exact OrderedNumber.atMost_trans _ _ _ (OrderedNumber.atMost_of_less _ _ hless)
            (hpassed other hbefore)
      · rw [dif_neg hless]
        by_cases hsame : other = ⟨start, hstart⟩
        · rw [hsame]
          exact OrderedNumber.atMost_of_not_less _ _ (hfinite _) (hfinite _)
            (Bool.eq_false_iff.mpr hless)
        · apply hpassed
          have hne : other.val ≠ start := fun hequal => hsame (Fin.ext hequal)
          omega
  | case2 start best hstart => exact hpassed index (by omega)

/-- The first smallest entry is at most every entry. -/
theorem firstSmallest_atMost [OrderedNumber α] (hcount : 0 < count) {entry : Fin count → α}
    (hfinite : ∀ index, Number.isFinite (entry index) = true) (index : Fin count) :
    Number.atMost (entry (firstSmallest hcount entry)) (entry index) = true := by
  apply firstSmallestFrom_atMost hfinite
  intro first hfirst
  have hzero : first = ⟨0, hcount⟩ := Fin.ext (by simpa using hfirst)
  rw [hzero]
  exact OrderedNumber.atMost_refl _ (hfinite _)

end Stage

namespace Choice

variable {admitted : ε → Prop} {candidate : Fin count → Except ε (Choice α)}
  {control : Fin count → α}

/-- Without failures the running minimum keeps the first smallest entry. -/
theorem searchFrom_eq_ok {cost : Fin count → α}
    (hcandidate : ∀ index, candidate index = .ok ⟨cost index, control index⟩) (start : Nat)
    (best : Fin count) :
    searchFrom candidate start ⟨cost best, control best⟩ =
      .ok ⟨cost (Stage.firstSmallestFrom cost start best),
        control (Stage.firstSmallestFrom cost start best)⟩ := by
  fun_induction Stage.firstSmallestFrom cost start best with
  | case1 start best hstart ih =>
      rw [searchFrom, dif_pos hstart, hcandidate]
      simp only [keep]
      split
      · next hless => simpa [hless] using ih
      · next hless => simpa [hless] using ih
  | case2 start best hstart => rw [searchFrom, dif_neg hstart]

/-- A candidate that fails ends the search. -/
theorem searchFrom_agrees_none {cost? : Fin count → Option α}
    (hcandidate : ∀ index, Agrees admitted (candidate index)
      ((cost? index).map fun cost => ⟨cost, control index⟩))
    {failing : Fin count} (hfailing : cost? failing = none) {start : Nat}
    (hstart : start ≤ failing.val) (best : Choice α) :
    Agrees admitted (searchFrom candidate start best) none := by
  fun_induction searchFrom candidate start best with
  | case1 start best hlt found hfound ih =>
      apply ih
      have hagrees := hcandidate ⟨start, hlt⟩
      rw [hfound] at hagrees
      have hne : failing.val ≠ start := by
        intro hequal
        have hsame : failing = ⟨start, hlt⟩ := Fin.ext hequal
        rw [← hsame, hfailing] at hagrees
        obtain ⟨error, herror, _⟩ := hagrees
        cases herror
      omega
  | case2 start best hlt error herror =>
      obtain ⟨_, hadmitted⟩ := (hcandidate ⟨start, hlt⟩).admitted_of_error herror
      exact Agrees.of_error hadmitted
  | case3 start best hge =>
      have hfailing := failing.isLt
      omega

/-- The search gives the first smallest cost with its control when every candidate has a cost. -/
theorem search_agrees (hcount : 0 < count) {cost? : Fin count → Option α}
    (hcandidate : ∀ index, Agrees admitted (candidate index)
      ((cost? index).map fun cost => ⟨cost, control index⟩)) :
    Agrees admitted (search hcount candidate)
      ((Vector.ofFnM cost?).map fun costs =>
        let best := Stage.firstSmallest hcount costs.get
        ⟨costs.get best, control best⟩) := by
  cases hcosts : Vector.ofFnM cost? with
  | some costs =>
      have hall := ofFnM_eq_some_iff.mp hcosts
      have hok : ∀ index, candidate index = .ok ⟨costs.get index, control index⟩ := by
        intro index
        have hagrees := hcandidate index
        rw [hall index] at hagrees
        exact hagrees
      show search hcount candidate = .ok _
      rw [search, hok]
      exact searchFrom_eq_ok hok 1 ⟨0, hcount⟩
  | none =>
      obtain ⟨failing, hfailing⟩ := ofFnM_eq_none_iff.mp hcosts
      rw [Option.map_none, search]
      cases hfirst : candidate ⟨0, hcount⟩ with
      | error error =>
          obtain ⟨_, hadmitted⟩ := (hcandidate ⟨0, hcount⟩).admitted_of_error hfirst
          exact Agrees.of_error hadmitted
      | ok first =>
          have hne : failing.val ≠ 0 := by
            intro hzero
            have hsame : failing = ⟨0, hcount⟩ := Fin.ext hzero
            have hagrees := hcandidate ⟨0, hcount⟩
            rw [← hsame, hfailing] at hagrees
            obtain ⟨error, herror, _⟩ := hagrees
            rw [hsame, hfirst] at herror
            cases herror
          exact searchFrom_agrees_none hcandidate hfailing (Nat.one_le_iff_ne_zero.mpr hne) first

end Choice

end BellmanGrid
