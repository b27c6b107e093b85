import BellmanGrid.Proofs.Agreement

/-!
What a run can end with.

A run ends in a result of one kind or in an error of another.  This is kept by sequencing and by
traversals, so the outcomes of a long run are put together from those of its pieces.
-/

namespace BellmanGrid

variable {ε δ β γ : Type}

/-- A result is good, and an error is admitted. -/
def Ensures (good : β → Prop) (admitted : ε → Prop) : (run : Except ε β) → Prop
  | .ok result => good result
  | .error error => admitted error

namespace Ensures

variable {good : β → Prop} {admitted : ε → Prop} {run : Except ε β}

theorem good_of_ok (hensures : Ensures good admitted run) {result : β} (hrun : run = .ok result) :
    good result := by
  subst hrun
  exact hensures

theorem admitted_of_error (hensures : Ensures good admitted run) {error : ε}
    (hrun : run = .error error) : admitted error := by
  subst hrun
  exact hensures

theorem mono {better : β → Prop} {weaker : ε → Prop} (hensures : Ensures good admitted run)
    (hgood : ∀ result, good result → better result)
    (hadmitted : ∀ error, admitted error → weaker error) : Ensures better weaker run := by
  cases run with
  | ok result => exact hgood result hensures
  | error error => exact hadmitted error hensures

theorem mapError {change : ε → δ} {changed : δ → Prop} (hensures : Ensures good admitted run)
    (hchange : ∀ error, admitted error → changed (change error)) :
    Ensures good changed (run.mapError change) := by
  cases run with
  | ok result => exact hensures
  | error error => exact hchange error hensures

/-- A changed error comes from one that is changed. -/
theorem of_mapError (run : Except ε β) (change : ε → δ) :
    Ensures (fun _ => True) (fun error => ∃ cause, error = change cause) (run.mapError change) := by
  cases run with
  | ok result => trivial
  | error cause => exact ⟨cause, rfl⟩

theorem map {change : β → γ} {changed : γ → Prop} (hensures : Ensures good admitted run)
    (hchange : ∀ result, good result → changed (change result)) :
    Ensures changed admitted (run.map change) := by
  cases run with
  | ok result => exact hchange result hensures
  | error error => exact hensures

theorem bind {next : β → Except ε γ} {last : γ → Prop} (hensures : Ensures good admitted run)
    (hnext : ∀ result, good result → Ensures last admitted (next result)) :
    Ensures last admitted (run >>= next) := by
  cases run with
  | ok result => exact hnext result hensures
  | error error => exact hensures

/-- A traversal of a list has as many results as there are elements, all of them good. -/
theorem mapM {α : Type} {action : α → Except ε β} (items : List α)
    (hitems : ∀ item ∈ items, Ensures good admitted (action item)) :
    Ensures (fun results : List β =>
        results.length = items.length ∧ ∀ result ∈ results, good result) admitted
      (items.mapM action) := by
  induction items with
  | nil => exact ⟨rfl, fun _ hmem => absurd hmem List.not_mem_nil⟩
  | cons item rest ih =>
      rw [List.mapM_cons]
      apply (hitems item List.mem_cons_self).bind
      intro first hfirst
      apply (ih fun other hother => hitems other (List.mem_cons_of_mem item hother)).bind
      rintro others ⟨hlength, hothers⟩
      exact ⟨congrArg Nat.succ hlength, List.forall_mem_cons.mpr ⟨hfirst, hothers⟩⟩

/-- A traversal of positions has a good result at every position. -/
theorem ofFnM {count : Nat} {action : Fin count → Except ε β} {good : Fin count → β → Prop}
    (hpositions : ∀ index, Ensures (good index) admitted (action index)) :
    Ensures (fun entries : Vector β count => ∀ index, good index (entries.get index)) admitted
      (Vector.ofFnM action) := by
  cases hrun : Vector.ofFnM action with
  | ok entries => exact fun index => (hpositions index).good_of_ok (ofFnM_eq_ok_iff.mp hrun index)
  | error error =>
      obtain ⟨index, hindex, _⟩ := ofFnM_eq_error hrun
      exact (hpositions index).admitted_of_error hindex

end Ensures

end BellmanGrid
