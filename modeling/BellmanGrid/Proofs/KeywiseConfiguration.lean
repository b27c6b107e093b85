import BellmanGrid.Config.Writer
import BellmanGrid.Proofs.AcceptedConfigurations
import Mathlib.Logic.Relation

/-!
A configuration is an overlay of the built-in one.

Each field has a key of a section, and is read from what is under that key, or is built in if
nothing is.  So edits of a mapping move no field but those whose keys they touch, and the mapping
that a configuration is written to is read as the same configuration again.
-/

namespace BellmanGrid

namespace RunConfig

/-! ### Keys -/

/-- A key of a section, how what is under it is converted, and the field that it fills. -/
structure Key where
  sectionName : String
  name : String
  convert : Value → Except ConversionError Value
  field : RunConfig → Value

namespace Key

def real (sectionName name : String) (get : RunConfig → Float) : Key where
  sectionName := sectionName
  name := name
  convert given := given.toReal.map .real
  field config := .real (get config)

def integer (sectionName name : String) (get : RunConfig → Int) : Key where
  sectionName := sectionName
  name := name
  convert given := given.toInteger.map .integer
  field config := .integer (get config)

/-- The key of a text: the plain text of any value. -/
def text (sectionName name : String) (get : RunConfig → String) : Key where
  sectionName := sectionName
  name := name
  convert given := .ok (.text given.plain)
  field config := .text (get config)

/-- The key of a flag: the truth value of any value. -/
def flag (sectionName name : String) (get : RunConfig → Bool) : Key where
  sectionName := sectionName
  name := name
  convert given := .ok (.boolean given.truth)
  field config := .boolean (get config)

def problemKeys : List Key :=
  [real "problem" "a" (·.problem.a), real "problem" "b" (·.problem.b),
    real "problem" "q" (·.problem.q), real "problem" "r" (·.problem.r),
    real "problem" "p_terminal" (·.problem.terminalWeight),
    real "problem" "x_target" (·.problem.target), real "problem" "x0" (·.problem.initial),
    integer "problem" "horizon" (·.problem.horizon)]

def rangeKeys (sectionName : String) (get : RunConfig → RangeSettings) : List Key :=
  [real sectionName "min" fun config => (get config).lower,
    real sectionName "max" fun config => (get config).upper,
    real sectionName "step" fun config => (get config).step]

def executionKeys : List Key :=
  [integer "solver" "workers" (·.execution.workers),
    integer "solver" "chunk_size" (·.execution.chunkSize)]

def outputKeys : List Key :=
  [text "output" "directory" (·.output.directory), flag "output" "plot" (·.output.figure)]

/-- The keys of a configuration. -/
def all : List Key :=
  problemKeys ++ (rangeKeys "state_grid" states ++ (rangeKeys "control_grid" controls ++
    (executionKeys ++ outputKeys)))

/-- What fills the field of a key: the converted value if there is one, the built-in one
otherwise. -/
def read (key : Key) (raw : Value) : Except ConversionError Value :=
  match valueAt raw key.sectionName key.name with
  | none => .ok (key.field {})
  | some given => key.convert given

/-- The section and the name are those of the key. -/
def IsAt (key : Key) (sectionName name : String) : Prop :=
  key.sectionName = sectionName ∧ key.name = name

/-- The section and the name are those of some key. -/
def IsKnown (sectionName name : String) : Prop :=
  ∃ key ∈ all, key.IsAt sectionName name

theorem forall_mem_rangeKeys {sectionName : String} {get : RunConfig → RangeSettings}
    {property : Key → Prop} :
    (∀ key ∈ rangeKeys sectionName get, property key) ↔
      property (real sectionName "min" fun config => (get config).lower) ∧
        property (real sectionName "max" fun config => (get config).upper) ∧
        property (real sectionName "step" fun config => (get config).step) := by
  simp [rangeKeys]

end Key

/-- The fields make up the configuration. -/
theorem eq_of_fields {config other : RunConfig}
    (hfields : ∀ key ∈ Key.all, key.field other = key.field config) : other = config := by
  simp only [Key.all, Key.problemKeys, Key.executionKeys, Key.outputKeys, List.forall_mem_append,
    List.forall_mem_cons, Key.forall_mem_rangeKeys, Key.real, Key.integer, Key.text, Key.flag,
    Value.real.injEq, Value.integer.injEq, Value.text.injEq, Value.boolean.injEq] at hfields
  obtain ⟨⟨ha, hb, hq, hr, hterminal, htarget, hinitial, hhorizon, -⟩, ⟨hslower, hsupper, hsstep⟩,
    ⟨hclower, hcupper, hcstep⟩, ⟨hworkers, hchunk, -⟩, hdirectory, hfigure, -⟩ := hfields
  exact RunConfig.ext
    (ProblemSettings.ext ha hb hq hr hterminal htarget hinitial hhorizon)
    (RangeSettings.ext hslower hsupper hsstep) (RangeSettings.ext hclower hcupper hcstep)
    (ExecutionSettings.ext hworkers hchunk) (OutputSettings.ext hdirectory hfigure)

/-! ### Reading a configuration by its keys -/

section Reading

variable {raw : Value} {sectionName name : String}

theorem Key.read_real {get : RunConfig → Float}
    (hget : get (described raw) = realOr (get {}) (valueAt raw sectionName name))
    (hfault : (Check.real sectionName name).fault? raw = none) :
    (Key.real sectionName name get).read raw =
      .ok ((Key.real sectionName name get).field (described raw)) := by
  rw [Check.fault?, Check.given?] at hfault
  simp only [Key.read, Key.real, hget]
  cases hgiven : valueAt raw sectionName name with
  | none => rfl
  | some given =>
      rw [hgiven, Option.bind_some, Check.faultOf?] at hfault
      cases given with
      | integer number =>
          rw [realFault?] at hfault
          have hless : ¬ integerLimit ≤ number.natAbs := by simpa using hfault
          simp only [Value.toReal, realOfInteger_eq, if_neg hless]
          rfl
      | real number => rfl
      | _ => cases hfault

theorem Key.read_integer {get : RunConfig → Int}
    (hget : get (described raw) = integerOr (get {}) (valueAt raw sectionName name))
    (hfault : (Check.integer sectionName name).fault? raw = none) :
    (Key.integer sectionName name get).read raw =
      .ok ((Key.integer sectionName name get).field (described raw)) := by
  rw [Check.fault?, Check.given?] at hfault
  simp only [Key.read, Key.integer, hget]
  cases hgiven : valueAt raw sectionName name with
  | none => rfl
  | some given =>
      rw [hgiven, Option.bind_some, Check.faultOf?] at hfault
      cases given with
      | integer number => rfl
      | real number =>
          rw [integerFault?] at hfault
          cases hreading : Reading.ofFloat number with
          | finite value =>
              simp only [Value.toInteger, integerPart, integerOr, FiniteDouble.ofFloat, hreading]
              rfl
          | infinite negative => simp [hreading] at hfault
          | notANumber => simp [hreading] at hfault
      | _ => cases hfault

theorem Key.read_text {get : RunConfig → String}
    (hget : get (described raw) =
      ((valueAt raw sectionName name).map Value.plain).getD (get {})) :
    (Key.text sectionName name get).read raw =
      .ok ((Key.text sectionName name get).field (described raw)) := by
  simp only [Key.read, Key.text, hget]
  cases valueAt raw sectionName name with
  | none => rfl
  | some given => rfl

theorem Key.read_flag {get : RunConfig → Bool}
    (hget : get (described raw) =
      ((valueAt raw sectionName name).map Value.truth).getD (get {})) :
    (Key.flag sectionName name get).read raw =
      .ok ((Key.flag sectionName name get).field (described raw)) := by
  simp only [Key.read, Key.flag, hget]
  cases valueAt raw sectionName name with
  | none => rfl
  | some given => rfl

end Reading

theorem Check.forall_mem_rangeChecks {sectionName : String} {property : Check → Prop} :
    (∀ check ∈ Check.rangeChecks sectionName, property check) ↔
      property (.entries sectionName) ∧ property (.real sectionName "min") ∧
        property (.real sectionName "max") ∧ property (.real sectionName "step") := by
  simp [Check.rangeChecks]

/-- Each field is filled by its key, if no check finds a fault. -/
theorem read_eq_field_described {raw : Value}
    (hnone : ∀ check ∈ Check.readingOrder, check.fault? raw = none) :
    ∀ key ∈ Key.all, key.read raw = .ok (key.field (described raw)) := by
  simp only [Check.readingOrder, Check.problemChecks, Check.executionChecks, Check.outputChecks,
    List.forall_mem_append, List.forall_mem_cons, Check.forall_mem_rangeChecks] at hnone
  obtain ⟨-, ⟨-, ha, hb, hq, hr, hterminal, htarget, hinitial, hhorizon, -⟩,
    ⟨-, hslower, hsupper, hsstep⟩, ⟨-, hclower, hcupper, hcstep⟩, ⟨-, hworkers, hchunk, -⟩, -⟩ :=
    hnone
  simp only [Key.all, Key.problemKeys, Key.executionKeys, Key.outputKeys, List.forall_mem_append,
    List.forall_mem_cons, Key.forall_mem_rangeKeys]
  exact ⟨⟨Key.read_real rfl ha, Key.read_real rfl hb, Key.read_real rfl hq, Key.read_real rfl hr,
      Key.read_real rfl hterminal, Key.read_real rfl htarget, Key.read_real rfl hinitial,
      Key.read_integer rfl hhorizon, List.forall_mem_nil _⟩,
    ⟨Key.read_real rfl hslower, Key.read_real rfl hsupper, Key.read_real rfl hsstep⟩,
    ⟨Key.read_real rfl hclower, Key.read_real rfl hcupper, Key.read_real rfl hcstep⟩,
    ⟨Key.read_integer rfl hworkers, Key.read_integer rfl hchunk, List.forall_mem_nil _⟩,
    Key.read_text rfl, Key.read_flag rfl, List.forall_mem_nil _⟩

/-! ### Writing and reading again -/

theorem lookup?_append (before after : Entries) (name : String) :
    Value.lookup? (before ++ after) name =
      (Value.lookup? before name).or (Value.lookup? after name) := by
  rw [Value.lookup?, Value.lookup?, Value.lookup?, List.find?_append, Option.map_or]

theorem lookup?_cons_text (name key : String) (given : Value) (rest : Entries) :
    Value.lookup? ((.text name, given) :: rest) key =
      if name = key then some given else Value.lookup? rest key := by
  rw [← List.singleton_append, lookup?_append, lookup?_singleton]
  split
  · rfl
  · rfl

@[simp]
theorem lookup?_record (entries : List (String × Value)) (key : String) :
    Value.lookup? (entriesOf (.record entries)) key = entries.lookup key := by
  rw [Value.record, entriesOf]
  induction entries with
  | nil => rfl
  | cons entry rest ih =>
      rw [List.map_cons, lookup?_cons_text, ih, List.lookup_cons]
      by_cases hsame : entry.1 = key
      · simp [hsame]
      · simp [hsame, beq_false_of_ne (Ne.symm hsame)]

/-- A configuration is written with all of its keys. -/
theorem valueAt_toValue (config : RunConfig) :
    ∀ key ∈ Key.all, valueAt config.toValue key.sectionName key.name = some (key.field config) := by
  simp [Key.all, Key.problemKeys, Key.executionKeys, Key.outputKeys, or_imp, forall_and,
    Key.forall_mem_rangeKeys, Key.real, Key.integer, Key.text, Key.flag, valueAt, sectionOf,
    RunConfig.toValue, RangeSettings.toValue, List.lookup]

/-- The integers of a configuration have doubles with their exact values. -/
structure HasDoubleIntegers (config : RunConfig) : Prop where
  horizon : IsDoubleInteger config.problem.horizon
  workers : IsDoubleInteger config.execution.workers
  chunkSize : IsDoubleInteger config.execution.chunkSize

theorem integerFault?_eq_none_iff (key : String) (number : Int) :
    integerFault? key (.integer number) = none ↔ IsDoubleInteger number := by
  rw [integerFault?, IsDoubleInteger, ← Nat.not_le]
  split
  · next hlarge => simp [hlarge]
  · next hless => simp [hless]

theorem isDoubleInteger_integerOr {key : String} {default : Int} {given : Option Value}
    (hdefault : IsDoubleInteger default) (hnone : given.bind (integerFault? key) = none) :
    IsDoubleInteger (integerOr default given) := by
  cases given with
  | none => exact hdefault
  | some given =>
      rw [Option.bind_some] at hnone
      cases given with
      | integer number => exact (integerFault?_eq_none_iff key number).mp hnone
      | real number =>
          rw [integerFault?] at hnone
          split at hnone
          · next value hreading =>
              rw [integerOr, FiniteDouble.ofFloat, hreading]
              exact isDoubleInteger_truncate hreading
          · cases hnone
          · cases hnone
      | _ => cases hnone

theorem hasDoubleIntegers_described {raw : Value}
    (hnone : ∀ check ∈ Check.readingOrder, check.fault? raw = none) :
    HasDoubleIntegers (described raw) where
  horizon :=
    isDoubleInteger_integerOr (isDoubleInteger_of_natAbs_le (by decide))
      (hnone (.integer "problem" "horizon") (by simp [Check.readingOrder, Check.problemChecks]))
  workers :=
    isDoubleInteger_integerOr (isDoubleInteger_of_natAbs_le (by decide))
      (hnone (.integer "solver" "workers") (by simp [Check.readingOrder, Check.executionChecks]))
  chunkSize :=
    isDoubleInteger_integerOr (isDoubleInteger_of_natAbs_le (by decide))
      (hnone (.integer "solver" "chunk_size") (by
        simp [Check.readingOrder, Check.executionChecks]))

@[simp]
theorem mappingFault?_record (fault : ConfigError) (entries : List (String × Value)) :
    mappingFault? fault (.record entries) = none :=
  rfl

@[simp]
theorem realFault?_real (key : String) (number : Float) : realFault? key (.real number) = none :=
  rfl

theorem fault?_toValue {config : RunConfig} (hintegers : HasDoubleIntegers config) :
    ∀ check ∈ Check.readingOrder, check.fault? config.toValue = none := by
  have htext : (Value.text config.output.directory).isWritable = true := rfl
  simp [Check.readingOrder, Check.problemChecks, Check.executionChecks, Check.outputChecks,
    Check.forall_mem_rangeChecks, or_imp, forall_and, Check.fault?, Check.given?, Check.faultOf?,
    valueAt, sectionOf, RunConfig.toValue, RangeSettings.toValue, List.lookup, htext,
    integerFault?_eq_none_iff, hintegers.horizon, hintegers.workers, hintegers.chunkSize]

/-- A converted value is converted to itself. -/
theorem convert_field (config : RunConfig) :
    ∀ key ∈ Key.all, key.convert (key.field config) = .ok (key.field config) := by
  simp [Key.all, Key.problemKeys, Key.executionKeys, Key.outputKeys, or_imp, forall_and,
    Key.forall_mem_rangeKeys, Key.real, Key.integer, Key.text, Key.flag, Value.toReal,
    Value.toInteger, Except.map, Value.plain, Value.truth]

/-- A configuration without a fault, written and read again, is the same configuration. -/
theorem ofValue_toValue {config : RunConfig} (hintegers : HasDoubleIntegers config) :
    ofValue config.toValue = .ok config := by
  have hnone := fault?_toValue hintegers
  have hagain : described config.toValue = config := by
    apply eq_of_fields
    intro key hkey
    have hread := read_eq_field_described hnone key hkey
    simp only [Key.read, valueAt_toValue config key hkey, convert_field config key hkey,
      Except.ok.injEq] at hread
    exact hread.symm
  rw [ofValue_eq, settle_eq_ok_iff, hagain]
  exact ⟨List.findSome?_eq_none_iff.mpr hnone, rfl⟩

/-! ### Edits -/

/-- The text keys of entries, in order. -/
def textKeys (entries : Entries) : List String :=
  entries.filterMap fun entry =>
    match entry.1 with
    | .text name => some name
    | _ => none

/-- An edit of the entries of a mapping that leaves the entries under the kept names as they are: a
further entry, or another order.  Backwards it takes an entry away. -/
inductive EntryEdit (kept : String → Prop) : Entries → Entries → Prop
  | insert (before after : Entries) {key : Value} (item : Value)
      (hother : ∀ name, kept name → key ≠ .text name) :
      EntryEdit kept (before ++ after) (before ++ (key, item) :: after)
  | reorder {entries reordered : Entries} (hdistinct : (textKeys entries).Nodup)
      (hsame : entries.Perm reordered) : EntryEdit kept entries reordered

/-- An edit of the sections of a configuration that leaves what is under the kept keys as it is: of
the root, where sections with kept keys stay, or inside a section, or of an empty section as a
whole. -/
inductive Edit (kept : String → String → Prop) : Entries → Entries → Prop
  | root {entries edited : Entries}
      (hedit : EntryEdit (fun sectionName => ∃ name, kept sectionName name) entries edited) :
      Edit kept entries edited
  | inside (before after : Entries) {sectionName : String} {entries edited : Entries}
      (hedit : EntryEdit (kept sectionName) entries edited) :
      Edit kept (before ++ (.text sectionName, .mapping entries) :: after)
        (before ++ (.text sectionName, .mapping edited) :: after)
  | empty (before after : Entries) {sectionName : String} {given : Value}
      (hfalse : given.truth = false)
      (habsent : Value.lookup? (before ++ after) sectionName = none) :
      Edit kept (before ++ after) (before ++ (.text sectionName, given) :: after)

theorem lookup?_cons_of_ne {key : Value} {name : String} (hne : key ≠ .text name) (item : Value)
    (rest : Entries) : Value.lookup? ((key, item) :: rest) name = Value.lookup? rest name := by
  cases key with
  | text content =>
      rw [lookup?_cons_text, if_neg]
      rintro rfl
      exact hne rfl
  | _ => rfl

/-- Under distinct keys the entry with a key is found wherever it stands. -/
theorem lookup?_eq_some_iff {entries : Entries} (hdistinct : (textKeys entries).Nodup)
    {name : String} {item : Value} :
    Value.lookup? entries name = some item ↔ (.text name, item) ∈ entries := by
  induction entries with
  | nil => simp [Value.lookup?]
  | cons entry rest ih =>
      obtain ⟨key, given⟩ := entry
      have hrest : (textKeys rest).Nodup :=
        hdistinct.sublist ((List.sublist_cons_self _ rest).filterMap _)
      by_cases hkey : key = .text name
      · subst hkey
        have hlater : (.text name, item) ∉ rest := by
          intro hmem
          have hagain : name ∈ textKeys rest := List.mem_filterMap.mpr ⟨_, hmem, rfl⟩
          exact (List.nodup_cons.mp hdistinct).1 hagain
        rw [lookup?_cons_text, if_pos rfl, List.mem_cons, or_iff_left hlater, Option.some.injEq,
          Prod.mk.injEq]
        exact ⟨fun hitem => ⟨rfl, hitem.symm⟩, fun hboth => hboth.2.symm⟩
      · have hfirst : (.text name, item) ≠ (key, given) := by
          rintro ⟨⟩
          exact hkey rfl
        rw [lookup?_cons_of_ne hkey, ih hrest, List.mem_cons, or_iff_right hfirst]

theorem lookup?_eq_of_perm {entries reordered : Entries} (hdistinct : (textKeys entries).Nodup)
    (hsame : entries.Perm reordered) (name : String) :
    Value.lookup? reordered name = Value.lookup? entries name := by
  have hdistinct' : (textKeys reordered).Nodup := (hsame.filterMap _).nodup_iff.mp hdistinct
  apply Option.ext
  intro item
  rw [lookup?_eq_some_iff hdistinct', lookup?_eq_some_iff hdistinct, hsame.mem_iff]

theorem EntryEdit.lookup?_eq {kept : String → Prop} {entries edited : Entries} {name : String}
    (hedit : EntryEdit kept entries edited) (hkept : kept name) :
    Value.lookup? edited name = Value.lookup? entries name := by
  cases hedit with
  | insert before after item hother =>
      rw [lookup?_append, lookup?_append, lookup?_cons_of_ne (hother name hkept)]
  | reorder hdistinct hsame => exact lookup?_eq_of_perm hdistinct hsame name

section Edit

variable {kept : String → String → Prop} {entries edited : Entries} {sectionName name : String}

/-- What an edit does to a section with a kept key: nothing, or an edit of its entries, or it comes
to stand there empty. -/
theorem Edit.sections (hedit : Edit kept entries edited) (hkept : kept sectionName name) :
    Value.lookup? edited sectionName = Value.lookup? entries sectionName ∨
    (∃ items items', Value.lookup? entries sectionName = some (.mapping items) ∧
      Value.lookup? edited sectionName = some (.mapping items') ∧
        EntryEdit (kept sectionName) items items') ∨
    ∃ given, Value.lookup? entries sectionName = none ∧
      Value.lookup? edited sectionName = some given ∧ given.truth = false := by
  cases hedit with
  | root hedit => exact Or.inl (hedit.lookup?_eq ⟨name, hkept⟩)
  | @inside before after other items items' hedit =>
      simp only [lookup?_append, lookup?_cons_text]
      by_cases hsame : other = sectionName
      · subst hsame
        cases Value.lookup? before other with
        | some given => exact Or.inl rfl
        | none => exact Or.inr (Or.inl ⟨items, items', by simp, by simp, hedit⟩)
      · simp [hsame]
  | @empty before after other given hfalse habsent =>
      by_cases hsame : other = sectionName
      · subst hsame
        rw [lookup?_append, Option.or_eq_none_iff] at habsent
        refine Or.inr (Or.inr ⟨given, ?_, ?_, hfalse⟩)
        · rw [lookup?_append, habsent.1, habsent.2, Option.or_none]
        · rw [lookup?_append, habsent.1, lookup?_cons_text, if_pos rfl, Option.none_or]
      · rw [lookup?_append, lookup?_append, lookup?_cons_text, if_neg hsame]
        exact Or.inl rfl

/-- An edit keeps what is under a kept key. -/
theorem Edit.valueAt_eq (hedit : Edit kept entries edited) (hkept : kept sectionName name) :
    valueAt (.mapping edited) sectionName name = valueAt (.mapping entries) sectionName name := by
  simp only [valueAt, sectionOf, entriesOf]
  obtain hsame | ⟨items, items', hbefore, hafter, hitems⟩ | ⟨given, hbefore, hafter, hfalse⟩ :=
    hedit.sections hkept
  · rw [hsame]
  · rw [hbefore, hafter]
    exact hitems.lookup?_eq hkept
  · rw [hbefore, hafter, Option.map_some, entriesOf_eq_nil hfalse]
    rfl

/-- An edit makes no fault of a section with a kept key, and takes none away. -/
theorem Edit.sectionFault?_eq (hedit : Edit kept entries edited) (hkept : kept sectionName name) :
    (Check.entries sectionName).fault? (.mapping edited) =
      (Check.entries sectionName).fault? (.mapping entries) := by
  simp only [Check.fault?, Check.given?, sectionOf, entriesOf]
  obtain hsame | ⟨items, items', hbefore, hafter, -⟩ | ⟨given, hbefore, hafter, hfalse⟩ :=
    hedit.sections hkept
  · rw [hsame]
  · rw [hbefore, hafter]
    rfl
  · rw [hbefore, hafter, Option.bind_some, Option.bind_none]
    exact mappingFault?_eq_none_iff.mpr (Or.inl hfalse)

/-- What each edit keeps, all edits together keep, forwards and backwards. -/
theorem eq_of_edits {β : Type} (view : Entries → β)
    (hkeeps : ∀ {entries edited}, Edit kept entries edited → view edited = view entries)
    (hedits : Relation.EqvGen (Edit kept) entries edited) : view edited = view entries := by
  induction hedits with
  | rel entries edited hedit => exact hkeeps hedit
  | refl entries => rfl
  | symm entries edited _ ih => exact ih.symm
  | trans entries between edited _ _ hfirst hsecond => exact hsecond.trans hfirst

end Edit

/-! ### The overlay -/

/-- A check looks at what is under a known key, or at a section with one. -/
def Check.LooksAtKnown : Check → Prop
  | root => True
  | entries sectionName => ∃ name, Key.IsKnown sectionName name
  | real sectionName name => Key.IsKnown sectionName name
  | integer sectionName name => Key.IsKnown sectionName name
  | text sectionName name => Key.IsKnown sectionName name

theorem Check.looksAtKnown_of_mem : ∀ check ∈ Check.readingOrder, check.LooksAtKnown := by
  simp [Check.readingOrder, Check.problemChecks, Check.executionChecks, Check.outputChecks,
    or_imp, forall_and, Check.forall_mem_rangeChecks, Check.LooksAtKnown, Key.IsKnown, Key.IsAt,
    Key.all, Key.problemKeys, Key.rangeKeys, Key.executionKeys, Key.outputKeys, Key.real,
    Key.integer, Key.text, Key.flag, or_and_right, exists_or]

/-- Edits around the known keys make no fault and take none away. -/
theorem fault?_eq_of_edits {entries edited : Entries}
    (hedits : Relation.EqvGen (Edit Key.IsKnown) entries edited) {check : Check}
    (hcheck : check ∈ Check.readingOrder) :
    check.fault? (.mapping edited) = check.fault? (.mapping entries) := by
  have hknown := Check.looksAtKnown_of_mem check hcheck
  refine eq_of_edits (fun entries => check.fault? (.mapping entries)) ?_ hedits
  intro entries edited hedit
  rw [Check.fault?, Check.fault?]
  cases check with
  | root => rfl
  | entries sectionName =>
      obtain ⟨name, hname⟩ := hknown
      exact hedit.sectionFault?_eq hname
  | real sectionName name => rw [Check.given?, Check.given?, hedit.valueAt_eq hknown]
  | integer sectionName name => rw [Check.given?, Check.given?, hedit.valueAt_eq hknown]
  | text sectionName name => rw [Check.given?, Check.given?, hedit.valueAt_eq hknown]

theorem read_eq_field {raw : Value} {config : RunConfig} (haccepted : ofValue raw = .ok config) :
    ∀ key ∈ Key.all, key.read raw = .ok (key.field config) := by
  have hnone := (exists_ofValue_iff raw).mp ⟨config, haccepted⟩
  rw [ofValue_eq, settle_eq_ok_iff] at haccepted
  rw [haccepted.2]
  exact read_eq_field_described hnone

/-- Two accepted values with the same under a key have the same in its field. -/
theorem field_eq_of_valueAt_eq {raw raw' : Value} {config config' : RunConfig}
    (haccepted : ofValue raw = .ok config) (haccepted' : ofValue raw' = .ok config') {key : Key}
    (hkey : key ∈ Key.all)
    (hsame : valueAt raw' key.sectionName key.name = valueAt raw key.sectionName key.name) :
    key.field config' = key.field config := by
  have hread := read_eq_field haccepted key hkey
  have hread' := read_eq_field haccepted' key hkey
  rw [Key.read, hsame, ← Key.read, hread] at hread'
  exact (Except.ok.inj hread').symm

/-- An accepted value is read key by key: its fields are the converted values, or the built-in ones
where there is no value, and nothing else has a part in them.  So no edit that leaves the entry of a
key as it is moves the field, unknown keys and the order of keys do not matter at all, and what the
configuration is written to has each field under its key and is read as the same configuration. -/
theorem ofValue_keywise {raw : Value} {config : RunConfig} (haccepted : ofValue raw = .ok config) :
    (∀ key ∈ Key.all, key.read raw = .ok (key.field config)) ∧
    (∀ other, (∀ key ∈ Key.all, key.field other = key.field config) → other = config) ∧
    (∀ key ∈ Key.all, ∀ edited config',
      Relation.EqvGen (Edit key.IsAt) (entriesOf raw) edited →
        ofValue (.mapping edited) = .ok config' → key.field config' = key.field config) ∧
    (∀ edited, Relation.EqvGen (Edit Key.IsKnown) (entriesOf raw) edited →
      ofValue (.mapping edited) = .ok config) ∧
    (∀ key ∈ Key.all,
      valueAt config.toValue key.sectionName key.name = some (key.field config)) ∧
    ofValue config.toValue = .ok config := by
  have hnone := (exists_ofValue_iff raw).mp ⟨config, haccepted⟩
  refine ⟨read_eq_field haccepted, fun _ => eq_of_fields, ?edits, ?unknown,
    valueAt_toValue config, ?again⟩
  case edits =>
    intro key hkey edited config' hedits haccepted'
    exact field_eq_of_valueAt_eq haccepted haccepted' hkey
      (eq_of_edits (fun entries => valueAt (.mapping entries) key.sectionName key.name)
        (fun hedit => hedit.valueAt_eq ⟨rfl, rfl⟩) hedits)
  case unknown =>
    intro edited hedits
    have hroot : (Check.root).fault? (.mapping (entriesOf raw)) = none := rfl
    have hedited : ∀ check ∈ Check.readingOrder, check.fault? (.mapping edited) = none := by
      intro check hcheck
      rw [fault?_eq_of_edits hedits hcheck]
      cases check with
      | root => exact hroot
      | _ => exact hnone _ hcheck
    obtain ⟨config', haccepted'⟩ := (exists_ofValue_iff _).mpr hedited
    rw [haccepted']
    congr 1
    apply eq_of_fields
    intro key hkey
    exact field_eq_of_valueAt_eq haccepted haccepted' hkey
      (eq_of_edits (fun entries => valueAt (.mapping entries) key.sectionName key.name)
        (fun hedit => hedit.valueAt_eq ⟨key, hkey, rfl, rfl⟩) hedits)
  case again =>
    rw [ofValue_eq, settle_eq_ok_iff] at haccepted
    rw [haccepted.2]
    exact ofValue_toValue (hasDoubleIntegers_described hnone)

/-- A horizon that is given as a double is read as an integer, also beside a key that is not known,
and is written as one. -/
theorem withHorizon_keywise :
    ofValue (withHorizon (.real 3.0)) = .ok { problem := { horizon := 3 } } ∧
    ofValue (.mapping (entriesOf (withHorizon (.real 3.0)) ++ [(.text "comment", .null)])) =
      .ok { problem := { horizon := 3 } } ∧
    ofValue (toValue { problem := { horizon := 3 } }) = .ok { problem := { horizon := 3 } } := by
  have hreading : Reading.ofFloat 3.0 = .finite ⟨false, 3 * 2 ^ 51, -51⟩ := by decide +kernel
  have hintegral : (FiniteDouble.mk false (3 * 2 ^ 51) (-51)).isIntegral = true := by
    decide +kernel
  have htruncate : (FiniteDouble.ofFloat 3.0).truncate = 3 := by decide +kernel
  have haccepted : ofValue (withHorizon (.real 3.0)) = .ok { problem := { horizon := 3 } } := by
    rw [ofValue_eq, settle_eq_ok_iff, findSome?_withHorizon]
    constructor
    · rw [integerFault?, hreading]
      exact if_pos hintegral
    · simp [described, problemOf, rangeOf, executionOf, outputOf, valueAt_withHorizon, realOr,
        integerOr, htruncate]
  have hunknown : Relation.EqvGen (Edit Key.IsKnown) (entriesOf (withHorizon (.real 3.0)))
      (entriesOf (withHorizon (.real 3.0)) ++ [(.text "comment", .null)]) := by
    have hother : ∀ sectionName, (∃ name, Key.IsKnown sectionName name) →
        Value.text "comment" ≠ .text sectionName := by
      rintro sectionName ⟨name, key, hkey, rfl, -⟩ hcomment
      have hnone : ∀ key ∈ Key.all, "comment" ≠ key.sectionName := by
        simp [Key.all, Key.problemKeys, Key.executionKeys, Key.outputKeys, or_imp, forall_and,
          Key.forall_mem_rangeKeys, Key.real, Key.integer, Key.text, Key.flag]
      exact hnone key hkey (Value.text.inj hcomment)
    have hinsert := EntryEdit.insert (entriesOf (withHorizon (.real 3.0))) [] .null hother
    rw [List.append_nil] at hinsert
    exact .rel _ _ (.root hinsert)
  obtain ⟨-, -, -, hedits, -, hagain⟩ := ofValue_keywise haccepted
  exact ⟨haccepted, hedits _ hunknown, hagain⟩

end RunConfig

end BellmanGrid
