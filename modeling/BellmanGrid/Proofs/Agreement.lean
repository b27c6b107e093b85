import Mathlib.Tactic.ByContra

/-!
Runs that may fail, beside the results that they are expected to give.

An expected result is optional: where there is none the run must fail, and the way in which it fails
must be admitted.  Agreement is kept by sequencing and by traversals, so a run is compared with its
expectation piece by piece.
-/

namespace BellmanGrid

variable {ε δ β γ : Type}

/-- The run gives the expected result; where none is expected, it fails in an admitted way. -/
def Agrees (admitted : ε → Prop) (run : Except ε β) : (expected : Option β) → Prop
  | some result => run = .ok result
  | none => ∃ error, run = .error error ∧ admitted error

namespace Agrees

variable {admitted : ε → Prop} {run : Except ε β} {expected : Option β}

theorem of_error {error : ε} (hadmitted : admitted error) :
    Agrees admitted (.error error : Except ε β) none :=
  ⟨error, rfl, hadmitted⟩

theorem ok_iff (hagrees : Agrees admitted run expected) (result : β) :
    run = .ok result ↔ expected = some result := by
  cases expected with
  | some other =>
      have hrun : run = .ok other := hagrees
      simp [hrun]
  | none =>
      obtain ⟨error, hrun, _⟩ := hagrees
      simp [hrun]

theorem admitted_of_error (hagrees : Agrees admitted run expected) {error : ε}
    (hrun : run = .error error) : expected = none ∧ admitted error := by
  cases expected with
  | some other =>
      have hother : run = .ok other := hagrees
      simp [hother] at hrun
  | none =>
      obtain ⟨found, hfound, hadmitted⟩ := hagrees
      rw [hfound, Except.error.injEq] at hrun
      exact ⟨rfl, hrun ▸ hadmitted⟩

theorem mono {weaker : ε → Prop} (hagrees : Agrees admitted run expected)
    (hweaker : ∀ error, admitted error → weaker error) : Agrees weaker run expected := by
  cases expected with
  | some other => exact hagrees
  | none =>
      obtain ⟨error, hrun, hadmitted⟩ := hagrees
      exact ⟨error, hrun, hweaker error hadmitted⟩

theorem mapError {change : ε → δ} {changed : δ → Prop} (hagrees : Agrees admitted run expected)
    (hchange : ∀ error, admitted error → changed (change error)) :
    Agrees changed (run.mapError change) expected := by
  cases expected with
  | some other =>
      have hrun : run = .ok other := hagrees
      rw [hrun]
      rfl
  | none =>
      obtain ⟨error, hrun, hadmitted⟩ := hagrees
      rw [hrun]
      exact of_error (hchange error hadmitted)

theorem bind {next : β → Except ε γ} {later : β → Option γ}
    (hagrees : Agrees admitted run expected)
    (hnext : ∀ result, expected = some result → Agrees admitted (next result) (later result)) :
    Agrees admitted (run >>= next) (expected.bind later) := by
  cases expected with
  | some result =>
      have hrun : run = .ok result := hagrees
      rw [hrun]
      exact hnext result rfl
  | none =>
      obtain ⟨error, hrun, hadmitted⟩ := hagrees
      rw [hrun]
      exact of_error hadmitted

theorem map (change : β → γ) (hagrees : Agrees admitted run expected) :
    Agrees admitted (run >>= fun result => pure (change result)) (expected.map change) := by
  rw [Option.map_eq_bind]
  exact hagrees.bind fun _ _ => rfl

/-- A traversal of a list agrees when it agrees at every element. -/
theorem mapM {α : Type} {action : α → Except ε β} {results : α → Option β} (items : List α)
    (hitems : ∀ item ∈ items, Agrees admitted (action item) (results item)) :
    Agrees admitted (items.mapM action) (items.mapM results) := by
  induction items with
  | nil => exact rfl
  | cons item rest ih =>
      rw [List.mapM_cons, List.mapM_cons]
      apply (hitems item List.mem_cons_self).bind
      intro first _
      apply (ih fun other hother => hitems other (List.mem_cons_of_mem item hother)).bind
      intro others _
      exact rfl

/-- A traversal of positions agrees when it agrees at every position. -/
theorem ofFnM {count : Nat} {action : Fin count → Except ε β} {results : Fin count → Option β}
    (hpositions : ∀ index, Agrees admitted (action index) (results index)) :
    Agrees admitted (Vector.ofFnM action) (Vector.ofFnM results) := by
  induction count with
  | zero =>
      rw [Vector.ofFnM_zero, Vector.ofFnM_zero]
      exact rfl
  | succ count ih =>
      rw [Vector.ofFnM_succ, Vector.ofFnM_succ]
      apply (ih fun index => hpositions index.castSucc).bind
      intro others _
      apply (hpositions (Fin.last count)).bind
      intro last _
      exact rfl

end Agrees

/-! ### Traversals whose results are optional -/

theorem get_eq_getElem {count : Nat} (entries : Vector β count) (index : Fin count) :
    entries.get index = getElem entries index.val index.isLt :=
  rfl

theorem get_ofFn {count : Nat} (entry : Fin count → β) : (Vector.ofFn entry).get = entry :=
  funext fun _ => Vector.getElem_ofFn _

theorem get_map {γ : Type} {count : Nat} (entries : Vector β count) (change : β → γ)
    (index : Fin count) : (entries.map change).get index = change (entries.get index) :=
  Vector.getElem_map change index.isLt

/-- From an index on, the entries are the one at the index and those after it. -/
theorem drop_toList {count index : Nat} (entries : Vector α count) (hindex : index < count) :
    entries.toList.drop index = entries.get ⟨index, hindex⟩ :: entries.toList.drop (index + 1) := by
  rw [List.drop_eq_getElem_cons (by simpa using hindex), Vector.getElem_toList]
  rfl

/-- All positions have a result, and these are the entries. -/
theorem ofFnM_eq_some_iff {count : Nat} {results : Fin count → Option β}
    {entries : Vector β count} :
    Vector.ofFnM results = some entries ↔
      ∀ index : Fin count, results index = some (entries.get index) := by
  induction count with
  | zero =>
      rw [Vector.ofFnM_zero]
      have hempty : entries = #v[] := Vector.eq_empty
      simp [hempty]
  | succ count ih =>
      rw [Vector.ofFnM_succ]
      constructor
      · intro hresults index
        obtain ⟨others, hothers, hlast⟩ := Option.bind_eq_some_iff.mp hresults
        obtain ⟨last, hfound, hentries⟩ := Option.bind_eq_some_iff.mp hlast
        obtain rfl := Option.some.inj hentries
        cases index using Fin.lastCases with
        | last => simpa [get_eq_getElem] using hfound
        | cast index => simpa [get_eq_getElem] using ih.mp hothers index
      · intro hresults
        have hothers : Vector.ofFnM (fun index : Fin count => results index.castSucc) =
            some entries.pop := by
          rw [ih]
          intro index
          simpa [get_eq_getElem] using hresults index.castSucc
        have hlast := hresults (Fin.last count)
        simp only [hothers, hlast, bind, Option.bind, pure]
        congr 1
        exact Vector.push_pop_back entries

/-- Some position has no result. -/
theorem ofFnM_eq_none_iff {count : Nat} {results : Fin count → Option β} :
    Vector.ofFnM results = none ↔ ∃ index, results index = none := by
  constructor
  · intro hnone
    by_contra hall
    have hsome : ∀ index, (results index).isSome := by
      intro index
      rw [Option.isSome_iff_ne_none]
      exact fun hindex => hall ⟨index, hindex⟩
    have hentries : Vector.ofFnM results =
        some (Vector.ofFn fun index => (results index).get (hsome index)) := by
      rw [ofFnM_eq_some_iff]
      intro index
      simp [get_eq_getElem]
    rw [hentries] at hnone
    exact Option.some_ne_none _ hnone
  · rintro ⟨index, hindex⟩
    cases hentries : Vector.ofFnM results with
    | none => rfl
    | some entries =>
        have hfound := ofFnM_eq_some_iff.mp hentries index
        rw [hindex] at hfound
        exact absurd hfound (Option.some_ne_none _).symm

/-- Two traversals of the same positions, the second of which reads the results of the first, are
one traversal. -/
theorem ofFnM_bind_ofFnM {count : Nat} (first : Fin count → Option β)
    (second : Fin count → β → Option γ) :
    (Vector.ofFnM first).bind (fun entries => Vector.ofFnM fun index =>
        second index (entries.get index)) =
      Vector.ofFnM fun index => (first index).bind (second index) := by
  cases hfirst : Vector.ofFnM first with
  | some entries =>
      have hentries := ofFnM_eq_some_iff.mp hfirst
      simp only [Option.bind_some, hentries]
  | none =>
      obtain ⟨index, hindex⟩ := ofFnM_eq_none_iff.mp hfirst
      rw [Option.bind_none, eq_comm, ofFnM_eq_none_iff]
      exact ⟨index, by rw [hindex, Option.bind_none]⟩

theorem mapM_eq_some_map {α : Type} {results : α → Option β} {items : List α} (result : α → β)
    (hitems : ∀ item ∈ items, results item = some (result item)) :
    items.mapM results = some (items.map result) := by
  induction items with
  | nil => rfl
  | cons item rest ih =>
      have hrest := ih fun other hother => hitems other (List.mem_cons_of_mem item hother)
      rw [List.mapM_cons, hitems item List.mem_cons_self, hrest]
      rfl

theorem mapM_eq_none_of_mem {α : Type} {results : α → Option β} {items : List α} {item : α}
    (hmem : item ∈ items) (hitem : results item = none) : items.mapM results = none := by
  induction items with
  | nil => exact absurd hmem List.not_mem_nil
  | cons head rest ih =>
      rw [List.mapM_cons]
      rcases List.mem_cons.mp hmem with rfl | hrest
      · rw [hitem]
        rfl
      · rw [ih hrest]
        cases results head <;> rfl

theorem length_of_mapM_eq_some {α : Type} {results : α → Option β} {items : List α}
    {found : List β} (hfound : items.mapM results = some found) :
    found.length = items.length := by
  induction items generalizing found with
  | nil =>
      obtain rfl := Option.some.inj hfound
      rfl
  | cons item rest ih =>
      rw [List.mapM_cons] at hfound
      obtain ⟨first, _, hothers⟩ := Option.bind_eq_some_iff.mp hfound
      obtain ⟨others, hrest, hcons⟩ := Option.bind_eq_some_iff.mp hothers
      obtain rfl := Option.some.inj hcons
      rw [List.length_cons, List.length_cons, ih hrest]

/-- A traversal of positions as a traversal of the list of positions. -/
theorem map_toList_ofFnM {count : Nat} (results : Fin count → Option β) :
    (Vector.ofFnM results).map Vector.toList = (List.finRange count).mapM results := by
  cases hresults : Vector.ofFnM results with
  | some entries =>
      have hentries := ofFnM_eq_some_iff.mp hresults
      rw [mapM_eq_some_map (fun index => entries[index]) fun index _ => hentries index,
        Option.map_some]
      congr 1
      apply List.ext_getElem <;> simp
  | none =>
      obtain ⟨index, hindex⟩ := ofFnM_eq_none_iff.mp hresults
      rw [mapM_eq_none_of_mem (List.mem_finRange index) hindex, Option.map_none]

theorem mapM_finRange_cast {first second : Nat} (hcount : first = second)
    (results : Fin second → Option β) :
    (List.finRange first).mapM (fun index => results (Fin.cast hcount index)) =
      (List.finRange second).mapM results := by
  subst hcount
  rfl

/-! ### Runs without regard to how they fail -/

theorem toOption_eq_some_iff {run : Except ε β} {result : β} :
    run.toOption = some result ↔ run = .ok result := by
  cases run <;> simp [Except.toOption]

theorem bind_eq_ok_iff {run : Except ε β} {next : β → Except ε γ} {result : γ} :
    run >>= next = .ok result ↔ ∃ first, run = .ok first ∧ next first = .ok result := by
  cases run <;> simp [bind, Except.bind]

@[simp]
theorem mapError_eq_ok_iff {run : Except ε β} {change : ε → δ} {result : β} :
    run.mapError change = .ok result ↔ run = .ok result := by
  cases run <;> simp [Except.mapError]

@[simp]
theorem toOption_bind (run : Except ε β) (next : β → Except ε γ) :
    (run >>= next).toOption = run.toOption.bind fun result => (next result).toOption := by
  cases run <;> rfl

@[simp]
theorem toOption_map (run : Except ε β) (change : β → γ) :
    (run.map change).toOption = run.toOption.map change := by
  cases run <;> rfl

@[simp]
theorem toOption_mapError (run : Except ε β) (change : ε → δ) :
    (run.mapError change).toOption = run.toOption := by
  cases run <;> rfl

/-- Traversals of a list have the same results when they have them at every element. -/
theorem toOption_mapM_congr {α : Type} {first : α → Except ε β} {second : α → Except δ β}
    (items : List α) (hitems : ∀ item ∈ items, (first item).toOption = (second item).toOption) :
    (items.mapM first).toOption = (items.mapM second).toOption := by
  induction items with
  | nil => rfl
  | cons item rest ih =>
      have hrest := ih fun other hother => hitems other (List.mem_cons_of_mem item hother)
      simp only [List.mapM_cons, toOption_bind, hitems item List.mem_cons_self, hrest]
      rfl

/-- Traversals of positions have the same results when they have them at every position. -/
theorem toOption_ofFnM_congr {count : Nat} {first : Fin count → Except ε β}
    {second : Fin count → Except δ β}
    (hpositions : ∀ index, (first index).toOption = (second index).toOption) :
    (Vector.ofFnM first).toOption = (Vector.ofFnM second).toOption := by
  induction count with
  | zero =>
      rw [Vector.ofFnM_zero, Vector.ofFnM_zero]
      rfl
  | succ count ih =>
      simp only [Vector.ofFnM_succ, toOption_bind, hpositions,
        ih fun index => hpositions index.castSucc]
      rfl

/-- A run over a list sees its state through a view when each of its steps does. -/
theorem toOption_foldlM_map {α σ τ : Type} {first : τ → α → Except ε τ}
    {second : σ → α → Except δ σ} (view : σ → τ)
    (hstep : ∀ state item, (first (view state) item).toOption =
      (second state item).toOption.map view) (items : List α) (state : σ) :
    (items.foldlM first (view state)).toOption = (items.foldlM second state).toOption.map view := by
  induction items generalizing state with
  | nil => rfl
  | cons item rest ih =>
      simp only [List.foldlM_cons, toOption_bind, hstep]
      cases (second state item).toOption with
      | none => rfl
      | some next => exact ih next

/-! ### The first failure of a traversal -/

/-- A traversal of a list fails as its first failing element does. -/
theorem mapM_eq_error {α : Type} {action : α → Except ε β} {items : List α} {error : ε}
    (hfails : items.mapM action = .error error) :
    ∃ (index : Nat) (_ : index < items.length), action items[index] = .error error ∧
      ∀ (earlier : Nat) (_ : earlier < index), ∃ result, action items[earlier] = .ok result := by
  induction items with
  | nil => cases hfails
  | cons item rest ih =>
      rw [List.mapM_cons] at hfails
      cases hitem : action item with
      | error found =>
          rw [hitem] at hfails
          obtain rfl := Except.error.inj hfails
          exact ⟨0, Nat.zero_lt_succ _, hitem,
            fun _ hearlier => absurd hearlier (Nat.not_lt_zero _)⟩
      | ok first =>
          rw [hitem] at hfails
          cases hrest : rest.mapM action with
          | ok others =>
              rw [hrest] at hfails
              cases hfails
          | error found =>
              rw [hrest] at hfails
              obtain rfl := Except.error.inj hfails
              obtain ⟨index, hindex, hfound, hbefore⟩ := ih hrest
              refine ⟨index + 1, Nat.succ_lt_succ hindex, hfound, fun earlier hearlier => ?_⟩
              cases earlier with
              | zero => exact ⟨first, hitem⟩
              | succ earlier => exact hbefore earlier (Nat.lt_of_succ_lt_succ hearlier)

/-- An element that fails after others that do not makes the traversal fail. -/
theorem mapM_append_cons_eq_error {α : Type} {action : α → Except ε β} {before after : List α}
    {item : α} {error : ε} (hbefore : ∀ earlier ∈ before, ∃ result, action earlier = .ok result)
    (hitem : action item = .error error) :
    (before ++ item :: after).mapM action = .error error := by
  induction before with
  | nil =>
      rw [List.nil_append, List.mapM_cons, hitem]
      rfl
  | cons first rest ih =>
      obtain ⟨result, hfirst⟩ := hbefore first List.mem_cons_self
      rw [List.cons_append, List.mapM_cons, hfirst,
        ih fun earlier hmem => hbefore earlier (List.mem_cons_of_mem first hmem)]
      rfl

theorem ofFnM_eq_ok_iff {count : Nat} {action : Fin count → Except ε β} {entries : Vector β count} :
    Vector.ofFnM action = .ok entries ↔ ∀ index, action index = .ok (entries.get index) := by
  have hagrees : Agrees (fun _ : ε => True) (Vector.ofFnM action)
      (Vector.ofFnM fun index => (action index).toOption) := by
    apply Agrees.ofFnM
    intro index
    cases action index with
    | ok result => rfl
    | error error => exact Agrees.of_error trivial
  rw [hagrees.ok_iff, ofFnM_eq_some_iff]
  simp only [toOption_eq_some_iff]

/-- A traversal of positions fails as its first failing position does. -/
theorem ofFnM_eq_error {count : Nat} {action : Fin count → Except ε β} {error : ε}
    (hfails : Vector.ofFnM action = .error error) :
    ∃ index, action index = .error error ∧
      ∀ earlier < index, ∃ result, action earlier = .ok result := by
  induction count with
  | zero =>
      rw [Vector.ofFnM_zero] at hfails
      cases hfails
  | succ count ih =>
      rw [Vector.ofFnM_succ] at hfails
      cases hothers : Vector.ofFnM fun index : Fin count => action index.castSucc with
      | error found =>
          rw [hothers] at hfails
          obtain rfl := Except.error.inj hfails
          obtain ⟨index, hindex, hbefore⟩ := ih hothers
          refine ⟨index.castSucc, hindex, fun earlier hearlier => ?_⟩
          exact hbefore ⟨earlier, Nat.lt_trans hearlier index.isLt⟩ hearlier
      | ok others =>
          rw [hothers] at hfails
          cases hlast : action (Fin.last count) with
          | ok last =>
              rw [hlast] at hfails
              cases hfails
          | error found =>
              rw [hlast] at hfails
              obtain rfl := Except.error.inj hfails
              refine ⟨Fin.last count, hlast, fun earlier hearlier => ?_⟩
              exact ⟨_, ofFnM_eq_ok_iff.mp hothers ⟨earlier, hearlier⟩⟩

end BellmanGrid
