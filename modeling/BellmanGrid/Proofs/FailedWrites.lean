import BellmanGrid.Proofs.StoredCells

/-!
What writes leave behind that fail.

Terminal costs are read and checked before they are stored, so a write of them that fails changes
nothing.  A stage stores its costs before it reads its controls, and the items of a list one by one.
So a stage that fails can leave costs behind, beside controls of an earlier stage.  Without such
stages the cost and the control of a cell come from one and the same write.
-/

namespace BellmanGrid

open Table (blank)

namespace Write

variable {states horizon : Nat}

/-- What a write stores: the cells that it sets in a blank table. -/
def stored (states horizon : Nat) (write : Write) : Table Float states horizon :=
  (write.perform blank).1

/-- How a write ends in a blank table. -/
def outcome (states horizon : Nat) (write : Write) : Except TableRequestError Unit :=
  (write.perform (blank : Table Float states horizon)).2

/-- When the write fails, the table stays as it was. -/
def IsAtomic (states horizon : Nat) (write : Write) : Prop :=
  ∀ (table : Table Float states horizon) (error : TableRequestError),
    (write.perform table).2 = .error error → (write.perform table).1 = table

/-- A write stores the same in every table, controls only beside costs, and unless it fails costs
only beside controls. -/
structure StoresAlike (states horizon : Nat) (write : Write) : Prop where
  perform : ∀ table : Table Float states horizon, write.perform table =
    ((write.stored states horizon).laidOver table, write.outcome states horizon)
  cost_of_control : ∀ (row : Fin states) (time : Fin horizon),
    (((write.stored states horizon).policy.get time).get row).isSome = true →
      (((write.stored states horizon).cost.get time.castSucc).get row).isSome = true
  control_of_cost : write.outcome states horizon = .ok () →
    ∀ (row : Fin states) (time : Fin horizon),
      (((write.stored states horizon).cost.get time.castSucc).get row).isSome = true →
        (((write.stored states horizon).policy.get time).get row).isSome = true

/-- The cost and the control of a cell are both unset, or both of one write. -/
def FromOneWrite (writes : List Write) (table : Table Float states horizon) (row : Fin states)
    (time : Fin horizon) : Prop :=
  (table.cost.get time.castSucc).get row = none ∧ (table.policy.get time).get row = none ∨
    ∃ write ∈ writes, ∃ cost control,
      ((write.stored states horizon).cost.get time.castSucc).get row = some cost ∧
      ((write.stored states horizon).policy.get time).get row = some control ∧
      (table.cost.get time.castSucc).get row = some cost ∧
      (table.policy.get time).get row = some control

/-! ### Stages -/

theorem exists_stagePlan (states horizon : Nat) (time : Value) (rows : GivenRows) (costs : Value) :
    ∃ costPlan, ∀ controls, ∃ controlPlan,
      (Table.StagePlan.mk costPlan controlPlan).IsPaired horizon ∧
        ∀ table : Table Float states horizon, (stage time rows costs controls).perform table =
          (Table.StagePlan.mk costPlan controlPlan).carryOut table :=
  isPlanned_stage time rows costs

section CarryOut

variable (plan : Table.StagePlan)

theorem carryOut_eq_laidOver (table : Table Float states horizon) :
    plan.carryOut table =
      ((plan.carryOut (blank : Table Float states horizon)).1.laidOver table,
        (plan.carryOut (blank : Table Float states horizon)).2) := by
  have hcost := Table.storeAll_eq_layOver table.cost plan.costs.stores
  have hpolicy := Table.storeAll_eq_layOver table.policy plan.controls.stores
  have hunset := Table.layOver_unsetColumns table.policy
  cases hcosts : plan.costs.outcome with
  | error error =>
      rw [Table.StagePlan.carryOut_of_error hcosts, Table.StagePlan.carryOut_of_error hcosts, hcost]
      exact congrArg (fun policy => (Table.mk _ policy _, _)) hunset.symm
  | ok done =>
      rw [Table.StagePlan.carryOut_of_ok hcosts, Table.StagePlan.carryOut_of_ok hcosts, hcost,
        hpolicy]
      rfl

/-- Carried out on a blank table, a plan sets the cells that it stores in. -/
theorem isSome_cost_carryOut (row : Fin states) (time : Fin (horizon + 1)) :
    (((plan.carryOut (blank : Table Float states horizon)).1.cost.get time).get row).isSome = true ↔
      [row.val, time.val] ∈ plan.costs.stores.map Prod.fst := by
  rw [← Table.isSome_storeAll_iff]
  cases hcosts : plan.costs.outcome with
  | error error =>
      rw [Table.StagePlan.carryOut_of_error hcosts]
      rfl
  | ok done =>
      rw [Table.StagePlan.carryOut_of_ok hcosts]
      rfl

/-- Controls are stored only once the costs are. -/
theorem isSome_policy_carryOut (row : Fin states) (time : Fin horizon) :
    (((plan.carryOut (blank : Table Float states horizon)).1.policy.get time).get row).isSome =
        true ↔
      plan.costs.outcome = .ok () ∧ [row.val, time.val] ∈ plan.controls.stores.map Prod.fst := by
  rw [← Table.isSome_storeAll_iff]
  cases hcosts : plan.costs.outcome with
  | error error =>
      rw [Table.StagePlan.carryOut_of_error hcosts, Table.get_policy_blank]
      exact iff_of_false Bool.false_ne_true fun hstored => nomatch hstored.1
  | ok done =>
      rw [Table.StagePlan.carryOut_of_ok hcosts]
      exact (and_iff_right rfl).symm

theorem outcome_carryOut_eq_ok (table : Table Float states horizon)
    (hok : (plan.carryOut table).2 = .ok ()) :
    plan.costs.outcome = .ok () ∧ plan.controls.outcome = .ok () := by
  cases hcosts : plan.costs.outcome with
  | error error =>
      rw [Table.StagePlan.carryOut_of_error hcosts] at hok
      cases hok
  | ok done =>
      rw [Table.StagePlan.carryOut_of_ok hcosts] at hok
      exact ⟨rfl, hok⟩

end CarryOut

theorem storesAlike_stage (time : Value) (rows : GivenRows) (costs controls : Value) :
    (stage time rows costs controls).StoresAlike states horizon := by
  obtain ⟨costPlan, hplans⟩ := exists_stagePlan states horizon time rows costs
  obtain ⟨controlPlan, hpaired, hperform⟩ := hplans controls
  refine ⟨fun table => ?_, fun row column hcontrol => ?_, fun houtcome row column hcost => ?_⟩
  · rw [stored, outcome, hperform, hperform]
    exact carryOut_eq_laidOver _ table
  · rw [stored, hperform, isSome_policy_carryOut] at hcontrol
    rw [stored, hperform, isSome_cost_carryOut]
    exact hpaired.cost_of_control hcontrol.1 row column column.isLt hcontrol.2
  · rw [stored, hperform, isSome_cost_carryOut] at hcost
    rw [stored, hperform, isSome_policy_carryOut]
    rw [outcome, hperform] at houtcome
    obtain ⟨hcosts, hcontrols⟩ := outcome_carryOut_eq_ok _ _ houtcome
    exact ⟨hcosts, hpaired.control_of_cost hcosts hcontrols row column column.isLt hcost⟩

theorem stored_cost_eq (time : Value) (rows : GivenRows) (costs controls others : Value) :
    ((stage time rows costs others).stored states horizon).cost =
      ((stage time rows costs controls).stored states horizon).cost := by
  obtain ⟨costPlan, hplans⟩ := exists_stagePlan states horizon time rows costs
  obtain ⟨controlPlan, -, hperform⟩ := hplans controls
  obtain ⟨otherPlan, -, hother⟩ := hplans others
  rw [stored, stored, hperform, hother]
  cases hcosts : costPlan.outcome with
  | error error =>
      rw [Table.StagePlan.carryOut_of_error hcosts, Table.StagePlan.carryOut_of_error hcosts]
  | ok done => rw [Table.StagePlan.carryOut_of_ok hcosts, Table.StagePlan.carryOut_of_ok hcosts]

/-! ### Atomic writes -/

theorem isAtomic_terminal (values : Value) : (terminal values).IsAtomic states horizon := by
  intro table error herror
  obtain ⟨_, hrefused⟩ | ⟨_, _, _, _, htaken⟩ := perform_terminal table values
  · rw [hrefused]
  · rw [htaken] at herror
    cases herror

/-- A write that stores alike is atomic when it succeeds or stores nothing, and else in no way. -/
theorem StoresAlike.isAtomic_iff {write : Write} (halike : write.StoresAlike states horizon) :
    write.IsAtomic states horizon ↔
      write.outcome states horizon = .ok () ∨ write.stored states horizon = blank := by
  constructor
  · intro hatomic
    cases houtcome : write.outcome states horizon with
    | ok done => exact Or.inl rfl
    | error error => exact Or.inr (hatomic blank error houtcome)
  · rintro (hok | hnothing) table error herror
    · rw [halike.perform, hok] at herror
      cases herror
    · rw [halike.perform, hnothing]
      exact Table.blank_laidOver table

/-! ### Cells of one write -/

theorem FromOneWrite.append {writes : List Write} {table : Table Float states horizon}
    {row : Fin states} {time : Fin horizon} (hone : FromOneWrite writes table row time)
    (write : Write) : FromOneWrite (writes ++ [write]) table row time := by
  obtain hunset | ⟨other, hother, hcell⟩ := hone
  · exact Or.inl hunset
  · exact Or.inr ⟨other, List.mem_append_left _ hother, hcell⟩

/-- Cells that a table has in common with another one are of one write when those are. -/
theorem FromOneWrite.congr {writes : List Write} {before after : Table Float states horizon}
    {row : Fin states} {time : Fin horizon} (hone : FromOneWrite writes before row time)
    (hcost : (after.cost.get time.castSucc).get row = (before.cost.get time.castSucc).get row)
    (hpolicy : (after.policy.get time).get row = (before.policy.get time).get row) :
    FromOneWrite writes after row time := by
  rw [FromOneWrite, hcost, hpolicy]
  exact hone

/-- A write that stores alike keeps cells of one write, or makes them its own, if it is atomic. -/
theorem FromOneWrite.perform_of_storesAlike {writes : List Write}
    {table : Table Float states horizon} {row : Fin states} {time : Fin horizon}
    (hone : FromOneWrite writes table row time) {write : Write}
    (halike : write.StoresAlike states horizon)
    (hatomic : write.IsAtomic states horizon) :
    FromOneWrite (writes ++ [write]) (write.perform table).1 row time := by
  cases houtcome : write.outcome states horizon with
  | error error =>
      have hfails : (write.perform table).2 = .error error := by
        rw [halike.perform, houtcome]
      rw [hatomic table error hfails]
      exact hone.append write
  | ok done =>
      rw [halike.perform]
      let upper := write.stored states horizon
      have hcost := Table.get_layOver upper.cost table.cost time.castSucc row
      have hpolicy := Table.get_layOver upper.policy table.policy time row
      cases hstored : ((write.stored states horizon).cost.get time.castSucc).get row with
      | none =>
          have hnone : ((write.stored states horizon).policy.get time).get row = none := by
            by_contra hsome
            have hboth := halike.cost_of_control row time (Option.isSome_iff_ne_none.mpr hsome)
            rw [hstored] at hboth
            cases hboth
          rw [hstored, Option.none_or] at hcost
          rw [hnone, Option.none_or] at hpolicy
          exact (hone.congr hcost hpolicy).append write
      | some cost =>
          have hsome : (((write.stored states horizon).cost.get time.castSucc).get row).isSome =
              true := by
            rw [hstored, Option.isSome_some]
          obtain ⟨control, hcontrol⟩ :=
            Option.isSome_iff_exists.mp (halike.control_of_cost houtcome row time hsome)
          rw [hstored, Option.some_or] at hcost
          rw [hcontrol, Option.some_or] at hpolicy
          have hmem := List.mem_append_right writes (List.mem_singleton_self write)
          exact Or.inr ⟨write, hmem, cost, control, hstored, hcontrol, hcost, hpolicy⟩

theorem FromOneWrite.perform {writes : List Write} {table : Table Float states horizon}
    {row : Fin states} {time : Fin horizon} (hone : FromOneWrite writes table row time)
    {write : Write} (hatomic : write.IsAtomic states horizon) :
    FromOneWrite (writes ++ [write]) (write.perform table).1 row time := by
  cases write with
  | terminal values =>
      have hlast : time.castSucc.val ≠ horizon := Nat.ne_of_lt time.isLt
      have hkeeps : (terminal values).KeepsAxes := trivial
      obtain ⟨hcost, hpolicy⟩ := Table.sameOutside_perform table hkeeps
      exact (hone.congr (hcost row time.castSucc hlast) (hpolicy row time hlast)).append _
  | stage given rows costs controls =>
      exact hone.perform_of_storesAlike (storesAlike_stage given rows costs controls) hatomic

theorem fromOneWrite_after {writes : List Write}
    (hatomic : ∀ write ∈ writes, write.IsAtomic states horizon) (row : Fin states)
    (time : Fin horizon) :
    FromOneWrite writes ((blank : Table Float states horizon).after writes) row time := by
  induction writes using List.reverseRecOn with
  | nil => exact Or.inl ⟨Table.get_cost_blank row _, Table.get_policy_blank row time⟩
  | append_singleton earlier write ih =>
      rw [Table.after_append]
      exact (ih fun other hother => hatomic other (List.mem_append_left _ hother)).perform
        (hatomic write (List.mem_append_right _ (List.mem_singleton_self write)))

/-! ### A stage that fails late -/

/-- A stage of the one state whose cost can be stored, and whose controls are one too many. -/
def lateFailure : Write :=
  .stage (.integer 0) (.slice .null .null .null) (.integer 5) (.list [.integer 7, .integer 7])

theorem perform_lateFailure {cost control last : Option Float} {terminalSet : Bool} :
    lateFailure.perform ⟨#v[#v[cost], #v[last]], #v[#v[control]], terminalSet⟩ =
      (⟨#v[#v[some 5.0], #v[last]], #v[#v[control]], terminalSet⟩,
        .error (.table (.shapeMismatch [2] [1]))) := by
  have hcosts : Table.assign #v[cost] (.slice ⟨none, none, none⟩) (.integer 5) =
      (#v[some 5.0], .ok ()) := Table.assign_integer rfl
  have hcontrols : Table.assign #v[control] (.slice ⟨none, none, none⟩)
      (.list [.integer 7, .integer 7]) = (#v[control], .error (.shapeMismatch [2] [1])) := by
    have hpositions : Slice.positions? ⟨none, none, none⟩ 1 = some [0] := rfl
    have hshape : Value.shape 1 (.list [.integer 7, .integer 7]) = .ok [2] := by
      simp [Value.shape, Value.findShape, Value.findListShape, Value.findShapes,
        ShapeSearch.list, ShapeSearch.entry]
    have hentries : Value.entries (.list [.integer 7, .integer 7]) = [.integer 7, .integer 7] := by
      simp [Value.entries, Value.listEntries]
    simp only [Table.assign, hpositions, List.length_singleton, Table.numbersFor, hshape, hentries]
    rfl
  let table : Table Float 1 1 := ⟨#v[#v[cost], #v[last]], #v[#v[control]], terminalSet⟩
  have hstored := @Table.setStage_of_assign 1 1 table 0 Nat.one_pos _ _ _ _ _ _ hcosts hcontrols
  exact congrArg (fun reply => (reply.1, reply.2.mapError TableRequestError.table)) hstored

theorem blank_one : (blank : Table Float 1 1) = ⟨#v[#v[none], #v[none]], #v[#v[none]], false⟩ :=
  rfl

/-! ### All writes -/

/-- Terminal costs that are refused change nothing.  A stage stores the same in every table, and its
costs whatever its controls are; so it is atomic only if it succeeds or stores nothing at all.  As
long as all writes are atomic, the cost and the control of a cell come from one of them. -/
theorem failed_writes (states horizon : Nat) :
    (∀ values, (terminal values).IsAtomic states horizon) ∧
    (∀ time rows costs controls,
      (stage time rows costs controls).StoresAlike states horizon ∧
      (∀ others, ((stage time rows costs others).stored states horizon).cost =
        ((stage time rows costs controls).stored states horizon).cost) ∧
      ((stage time rows costs controls).IsAtomic states horizon ↔
        (stage time rows costs controls).outcome states horizon = .ok () ∨
          (stage time rows costs controls).stored states horizon = blank)) ∧
    ∀ writes : List Write, (∀ write ∈ writes, write.IsAtomic states horizon) →
      ∀ (row : Fin states) (time : Fin horizon),
        FromOneWrite writes ((blank : Table Float states horizon).after writes) row time := by
  refine ⟨isAtomic_terminal, fun time rows costs controls => ?_,
    fun writes hatomic row time => fromOneWrite_after hatomic row time⟩
  have halike := @storesAlike_stage states horizon time rows costs controls
  exact ⟨halike, stored_cost_eq time rows costs controls, halike.isAtomic_iff⟩

/-- Of the writes that fill a table all are atomic, so the cell is of one write; a stage that fails
late is not. -/
theorem twoWrites_failed_writes : (∀ write ∈ Table.twoWrites, write.IsAtomic 1 1) ∧
    FromOneWrite Table.twoWrites ((blank : Table Float 1 1).after Table.twoWrites) 0 0 ∧
    ¬ lateFailure.IsAtomic 1 1 := by
  obtain ⟨hterminal, hstage, hone⟩ := failed_writes 1 1
  have hatomic : ∀ write ∈ Table.twoWrites, write.IsAtomic 1 1 := by
    intro write hmem
    obtain rfl | rfl : write = Table.firstWrite ∨ write = .terminal (.list [.integer 1]) := by
      simpa [Table.twoWrites] using hmem
    · exact (hstage _ _ _ _).2.2.mpr (Or.inl (congrArg Prod.snd Table.perform_firstWrite))
    · exact hterminal _
  refine ⟨hatomic, hone Table.twoWrites hatomic 0 0, fun hlate => ?_⟩
  have hfails := @perform_lateFailure none none none false
  rw [← blank_one] at hfails
  obtain hok | hnothing := (hstage _ _ _ _).2.2.mp hlate
  · have hboth := hok.symm.trans (congrArg Prod.snd hfails)
    cases hboth
  · have hsame := hnothing.symm.trans (congrArg Prod.fst hfails)
    have hcost : (none : Option Float) = some 5.0 :=
      congrArg (fun table : Table Float 1 1 => (table.cost.get 0).get 0) hsame
    cases hcost

/-- A stage that fails replaces the cost of a complete table, whose control stays that of an earlier
stage: the table goes on to be complete, and has a cost and a control of different writes. -/
theorem exists_mixed_cell : ∃ table : Table Float 1 1,
    table = Table.blank.after Table.twoWrites ∧ table.isComplete = true ∧
    (lateFailure.perform table).2 = .error (.table (.shapeMismatch [2] [1])) ∧
    (lateFailure.perform table).1.cost ≠ table.cost ∧
    (lateFailure.perform table).1.isComplete = true ∧
    ¬ FromOneWrite (Table.twoWrites ++ [lateFailure])
      ((blank : Table Float 1 1).after (Table.twoWrites ++ [lateFailure])) 0 0 := by
  have htwo : (blank : Table Float 1 1).after Table.twoWrites =
      ⟨#v[#v[some 1.0], #v[some 1.0]], #v[#v[some 1.0]], true⟩ :=
    congrArg Prod.fst Table.perform_twoWrites
  refine ⟨_, rfl, Table.twoWrites_after_blank.2.2.2.1, ?_, ?_, ?_, ?_⟩
  · rw [htwo, perform_lateFailure]
  · rw [htwo, perform_lateFailure]
    decide +kernel
  · rw [htwo, perform_lateFailure]
    decide +kernel
  · have hlate : ((blank : Table Float 1 1).after (Table.twoWrites ++ [lateFailure])) =
        ⟨#v[#v[some 5.0], #v[some 1.0]], #v[#v[some 1.0]], true⟩ := by
      rw [Table.after_append, htwo]
      exact congrArg Prod.fst perform_lateFailure
    rw [hlate]
    rintro (⟨hunset, _⟩ | ⟨write, hmem, cost, control, hcost, hcontrol, hmixed⟩)
    · cases hunset
    · obtain rfl | rfl | rfl : write = Table.firstWrite ∨
          write = .terminal (.list [.integer 1]) ∨ write = lateFailure := by
        simpa [Table.twoWrites] using hmem
      · rw [stored, Table.perform_firstWrite] at hcost
        have hfive : some (5.0 : Float) = some 1.0 := hmixed.1.trans hcost.symm
        exact absurd hfive (by decide +kernel)
      · rw [stored, Write.perform, Table.setTerminal, Value.toTensor_singleton] at hcontrol
        exact absurd hcontrol (by simp [Table.blank])
      · rw [stored, blank_one, perform_lateFailure] at hcontrol
        cases hcontrol

end Write

end BellmanGrid
