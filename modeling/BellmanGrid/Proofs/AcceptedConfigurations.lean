import BellmanGrid.Config.Basic
import BellmanGrid.Proofs.IntegerDoubles

/-!
Which values are configurations.

A value is read check by check, in a fixed order, and the first check that finds a fault ends the
reading with it.  A check lets pass what is documented, but for a few values: empty collections,
zeros and the truth value false pass for mappings, integers that no double has are refused, and so
is a directory that has no text.
-/

namespace BellmanGrid

namespace RunConfig

/-! ### What is under a key -/

/-- The entries of a value; none if it is no mapping. -/
def entriesOf : Value → Entries
  | .mapping entries => entries
  | _ => []

/-- What a value has as a section. -/
def sectionOf (raw : Value) (name : String) : Option Value :=
  Value.lookup? (entriesOf raw) name

/-- What a value has under a key of a section. -/
def valueAt (raw : Value) (name key : String) : Option Value :=
  Value.lookup? (((sectionOf raw name).map entriesOf).getD []) key

def realOr (default : Float) : Option Value → Float
  | some (.integer number) => floatOfInt number
  | some (.real number) => number
  | _ => default

def integerOr (default : Int) : Option Value → Int
  | some (.integer number) => number
  | some (.real number) => (FiniteDouble.ofFloat number).truncate
  | _ => default

/-- The problem that a value describes, if its numbers are what they have to be. -/
def problemOf (raw : Value) (default : ProblemSettings) : ProblemSettings where
  a := realOr default.a (valueAt raw "problem" "a")
  b := realOr default.b (valueAt raw "problem" "b")
  q := realOr default.q (valueAt raw "problem" "q")
  r := realOr default.r (valueAt raw "problem" "r")
  terminalWeight := realOr default.terminalWeight (valueAt raw "problem" "p_terminal")
  target := realOr default.target (valueAt raw "problem" "x_target")
  initial := realOr default.initial (valueAt raw "problem" "x0")
  horizon := integerOr default.horizon (valueAt raw "problem" "horizon")

def rangeOf (raw : Value) (name : String) (default : RangeSettings) : RangeSettings where
  lower := realOr default.lower (valueAt raw name "min")
  upper := realOr default.upper (valueAt raw name "max")
  step := realOr default.step (valueAt raw name "step")

def executionOf (raw : Value) (default : ExecutionSettings) : ExecutionSettings where
  workers := integerOr default.workers (valueAt raw "solver" "workers")
  chunkSize := integerOr default.chunkSize (valueAt raw "solver" "chunk_size")

def outputOf (raw : Value) (default : OutputSettings) : OutputSettings where
  directory := ((valueAt raw "output" "directory").map Value.plain).getD default.directory
  figure := ((valueAt raw "output" "plot").map Value.truth).getD default.figure

/-- The configuration that a value describes, if it has no fault. -/
def described (raw : Value) : RunConfig :=
  let default : RunConfig := {}
  { problem := problemOf raw default.problem
    states := rangeOf raw "state_grid" default.states
    controls := rangeOf raw "control_grid" default.controls
    execution := executionOf raw default.execution
    output := outputOf raw default.output }

/-! ### Faults -/

/-- The fault of a value that is neither an integer nor a real number. -/
def kindFault (key : String) (given : Value) : ConfigError :=
  if given.isWritable then .notNumeric key given else .conversion .unwritable

def realFault? (key : String) : Value → Option ConfigError
  | .integer number =>
      if integerLimit ≤ number.natAbs then some (.conversion .tooLarge) else none
  | .real _ => none
  | given => some (kindFault key given)

def integerFault? (key : String) : Value → Option ConfigError
  | .integer number =>
      if integerLimit ≤ number.natAbs then some (.conversion .tooLarge)
      else if roundSigned number = number then none
      else some (.notInteger key (.integer number))
  | .real number =>
      match Reading.ofFloat number with
      | .finite value => if value.isIntegral then none else some (.notInteger key (.real number))
      | .infinite _ => some (.conversion .infinite)
      | .notANumber => some (.conversion .notANumber)
  | given => some (kindFault key given)

/-- The fault of a value that is no mapping and does not count as false. -/
def mappingFault? (fault : ConfigError) : Value → Option ConfigError
  | .mapping _ => none
  | given => if given.truth then some fault else none

@[simp]
theorem mappingFault?_mapping (fault : ConfigError) (entries : Entries) :
    mappingFault? fault (.mapping entries) = none :=
  rfl

/-- One of the checks of a configuration. -/
inductive Check where
  /-- the root is a mapping -/
  | root
  /-- a section is a mapping -/
  | entries (name : String)
  /-- a key of a section holds a real number -/
  | real (name key : String)
  /-- a key of a section holds an integer -/
  | integer (name key : String)
  /-- what a key of a section holds can be written -/
  | text (name key : String)

namespace Check

def problemChecks : List Check :=
  [entries "problem", real "problem" "a", real "problem" "b", real "problem" "q",
    real "problem" "r", real "problem" "p_terminal", real "problem" "x_target",
    real "problem" "x0", integer "problem" "horizon"]

def rangeChecks (name : String) : List Check :=
  [entries name, real name "min", real name "max", real name "step"]

def executionChecks : List Check :=
  [entries "solver", integer "solver" "workers", integer "solver" "chunk_size"]

def outputChecks : List Check :=
  [entries "output", text "output" "directory"]

/-- The checks, in the order in which they are made. -/
def readingOrder : List Check :=
  root :: (problemChecks ++ (rangeChecks "state_grid" ++ (rangeChecks "control_grid" ++
    (executionChecks ++ outputChecks))))

/-- What a check looks at, if that is there. -/
def given? (raw : Value) : Check → Option Value
  | root => some raw
  | entries name => sectionOf raw name
  | real name key => valueAt raw name key
  | integer name key => valueAt raw name key
  | text name key => valueAt raw name key

/-- What a check finds wrong with what it looks at. -/
def faultOf? : Check → Value → Option ConfigError
  | root, given => mappingFault? .rootNotMapping given
  | entries name, given => mappingFault? (.sectionNotMapping name given.typeName) given
  | real _ key, given => realFault? key given
  | integer _ key, given => integerFault? key given
  | text _ _, given => if given.isWritable then none else some (.conversion .unwritable)

def fault? (raw : Value) (check : Check) : Option ConfigError :=
  (check.given? raw).bind check.faultOf?

def IsLeftOutOrMapping (given : Value) : Prop :=
  given = .null ∨ ∃ entries, given = .mapping entries

@[simp]
theorem isLeftOutOrMapping_mapping (entries : Entries) : IsLeftOutOrMapping (.mapping entries) :=
  Or.inr ⟨entries, rfl⟩

/-- What is documented: mappings or nothing, and numbers that their fields can hold. -/
def Documents : Check → Value → Prop
  | root, given => IsLeftOutOrMapping given
  | entries _, given => IsLeftOutOrMapping given
  | real _ _, given =>
      (∃ number, given = .integer number ∧ number.natAbs < integerLimit) ∨
        ∃ number, given = .real number
  | integer _ _, given =>
      (∃ number, given = .integer number) ∨
        ∃ number value, given = .real number ∧ Reading.ofFloat number = .finite value ∧
          value.isIntegral = true
  | text _ _, _ => True

/-- Where a check decides otherwise than documented: it takes what counts as false for a mapping, it
refuses integers that no double has, and it needs texts that can be written. -/
def Deviates : Check → Value → Prop
  | root, given => given.truth = false ∧ ¬ IsLeftOutOrMapping given
  | entries _, given => given.truth = false ∧ ¬ IsLeftOutOrMapping given
  | real _ _, _ => False
  | integer _ _, given =>
      ∃ number, given = .integer number ∧
        (integerLimit ≤ number.natAbs ∨ roundSigned number ≠ number)
  | text _ _, given => given.isWritable = false

/-- The faults that are no matter of a wrong value: integers beyond the largest double, and an
infinity where an integer has to be. -/
def Overflows : Check → Value → Prop
  | real _ _, given => ∃ number, given = .integer number ∧ integerLimit ≤ number.natAbs
  | integer _ _, given =>
      (∃ number, given = .integer number ∧ integerLimit ≤ number.natAbs) ∨
        ∃ number negative, given = .real number ∧ Reading.ofFloat number = .infinite negative
  | _, _ => False

end Check

/-- Ends with a fault, or with a value if there is none. -/
def settle {α : Type} (fault : Option ConfigError) (value : α) : Except ConfigError α :=
  match fault with
  | some error => .error error
  | none => .ok value

theorem findSome?_cons (raw : Value) (check : Check) (rest : List Check) :
    (check :: rest).findSome? (Check.fault? raw) =
      (check.fault? raw).or (rest.findSome? (Check.fault? raw)) := by
  rw [List.findSome?_cons]
  cases check.fault? raw with
  | some error => rfl
  | none => rfl

section Settle

variable {α β : Type}

theorem settle_bind (fault : Option ConfigError) (value : α) (later : α → Option ConfigError)
    (result : α → β) : (settle fault value >>= fun given => settle (later given) (result given)) =
      settle (fault.or (later value)) (result value) := by
  cases fault with
  | some error => rfl
  | none => rfl

theorem settle_bind_of_eq {fault : Option ConfigError} {value : α}
    {next : α → Except ConfigError β} {later : Option ConfigError} {result : β}
    (hnext : next value = settle later result) :
    (settle fault value >>= next) = settle (fault.or later) result := by
  cases fault with
  | some error => rfl
  | none => exact hnext

theorem pure_eq_settle (value : α) : (pure value : Except ConfigError α) = settle none value :=
  rfl

theorem settle_eq_ok_iff {fault : Option ConfigError} {value result : α} :
    settle fault value = .ok result ↔ fault = none ∧ result = value := by
  cases fault with
  | some error => simp [settle]
  | none => simp [settle, eq_comm]

theorem settle_eq_error_iff {fault : Option ConfigError} {value : α} {error : ConfigError} :
    settle fault value = .error error ↔ fault = some error := by
  cases fault with
  | some error => simp [settle]
  | none => simp [settle]

end Settle

/-! ### Reading -/

theorem throw_notNumeric_eq (key : String) (given : Value) :
    (do throw (.notNumeric key (← given.checkWritable.mapError ConfigError.conversion)) :
      Except ConfigError Value) = .error (kindFault key given) := by
  rw [Value.checkWritable, kindFault]
  split
  · rfl
  · rfl

/-- A value is an integer, or a real number, or neither; what is neither is refused. -/
theorem number_cases (key : String) (given : Value) :
    (∃ number, given = .integer number) ∨ (∃ number, given = .real number) ∨
      checkNumeric key given = .error (kindFault key given) ∧
        realFault? key given = some (kindFault key given) ∧
        integerFault? key given = some (kindFault key given) := by
  cases given with
  | integer number => exact Or.inl ⟨number, rfl⟩
  | real number => exact Or.inr (Or.inl ⟨number, rfl⟩)
  | _ => exact Or.inr (Or.inr ⟨throw_notNumeric_eq key _, rfl, rfl⟩)

theorem realOfInteger_eq (number : Int) :
    realOfInteger number =
      if integerLimit ≤ number.natAbs then .error .tooLarge else .ok (floatOfInt number) := by
  have hnearest := nearestInt?_eq_none_iff number
  by_cases hlarge : integerLimit ≤ number.natAbs
  · rw [if_pos hlarge, realOfInteger, hnearest.mpr hlarge]
  · have hsome : nearestInt? number = some (floatOfInt number) := by
      rw [← hnearest, nearestInt?] at hlarge
      rw [nearestInt?]
      split at hlarge
      · next hword => exact if_pos hword
      · exact absurd rfl hlarge
    rw [if_neg hlarge, realOfInteger, hsome]

theorem isExactly_floatOfInt {number : Int} (hless : number.natAbs < integerLimit) :
    isExactly (floatOfInt number) number = true ↔ roundSigned number = number := by
  obtain ⟨value, hreading, hintegral, htruncate⟩ := exists_ofFloat_floatOfInt hless
  rw [isExactly, hreading]
  simp [hintegral, htruncate]

theorem realAt_eq (entries : Entries) (key : String) (default : Float) :
    realAt entries key default =
      settle ((Value.lookup? entries key).bind (realFault? key))
        (realOr default (Value.lookup? entries key)) := by
  rw [realAt]
  cases Value.lookup? entries key with
  | none => rfl
  | some given =>
      rw [Option.bind_some]
      dsimp only
      obtain ⟨number, rfl⟩ | ⟨number, rfl⟩ | ⟨hrefused, hfault, -⟩ := number_cases key given
      · show (realOfInteger number).mapError _ = _
        rw [realOfInteger_eq, realFault?]
        split
        · rfl
        · rfl
      · rfl
      · rw [hrefused, hfault]
        rfl

theorem integerAt_of_integer (key : String) (number : Int) :
    (do
      let value ← (realOfInteger number).mapError ConfigError.conversion
      if isExactly value number then return number
        else throw (.notInteger key (.integer number))) =
      settle (integerFault? key (.integer number)) number := by
  rw [realOfInteger_eq, integerFault?]
  by_cases hlarge : integerLimit ≤ number.natAbs
  · rw [if_pos hlarge, if_pos hlarge]
    rfl
  · rw [if_neg hlarge, if_neg hlarge]
    have hexact := isExactly_floatOfInt (Nat.lt_of_not_le hlarge)
    show (if isExactly (floatOfInt number) number then _ else _) = _
    by_cases hsame : roundSigned number = number
    · rw [if_pos (hexact.mpr hsame), if_pos hsame]
      rfl
    · rw [if_neg (fun hexactly => hsame (hexact.mp hexactly)), if_neg hsame]
      rfl

theorem integerAt_of_real (key : String) (number : Float) :
    (do
      let value ← (integerPart FiniteDouble.truncate number).mapError ConfigError.conversion
      if isExactly number value then return value else throw (.notInteger key (.real number))) =
      settle (integerFault? key (.real number)) (FiniteDouble.ofFloat number).truncate := by
  rw [integerPart, integerFault?, FiniteDouble.ofFloat]
  cases hreading : Reading.ofFloat number with
  | finite value =>
      have hexact : isExactly number value.truncate = value.isIntegral := by
        rw [isExactly, hreading]
        simp
      show (if isExactly number value.truncate then _ else _) =
        settle (if value.isIntegral then none else _) value.truncate
      rw [hexact]
      cases value.isIntegral with
      | true => rfl
      | false => rfl
  | infinite negative => rfl
  | notANumber => rfl

theorem integerAt_eq (entries : Entries) (key : String) (default : Int) :
    integerAt entries key default =
      settle ((Value.lookup? entries key).bind (integerFault? key))
        (integerOr default (Value.lookup? entries key)) := by
  rw [integerAt]
  cases Value.lookup? entries key with
  | none => rfl
  | some given =>
      rw [Option.bind_some]
      dsimp only
      obtain ⟨number, rfl⟩ | ⟨number, rfl⟩ | ⟨hrefused, -, hfault⟩ := number_cases key given
      · exact integerAt_of_integer key number
      · exact integerAt_of_real key number
      · rw [hrefused, hfault]
        rfl

theorem mappingFault?_eq_none_iff {fault : ConfigError} {given : Value} :
    mappingFault? fault given = none ↔
      given.truth = false ∨ ∃ entries, given = .mapping entries := by
  cases given with
  | mapping entries => simp [mappingFault?]
  | _ => simp [mappingFault?]

theorem entriesOf_eq_nil {given : Value} (hfalse : given.truth = false) : entriesOf given = [] := by
  cases given with
  | mapping entries => simpa [Value.truth, entriesOf] using hfalse
  | _ => rfl

theorem settle_mappingFault? (fault : ConfigError) (given : Value) :
    settle (mappingFault? fault given) (entriesOf given) =
      if !given.truth then .ok []
      else match given with
        | .mapping entries => .ok entries
        | _ => .error fault := by
  cases htruth : given.truth with
  | false =>
      rw [mappingFault?_eq_none_iff.mpr (Or.inl htruth), entriesOf_eq_nil htruth]
      rfl
  | true =>
      cases given with
      | mapping entries => rfl
      | _ =>
          simp only [mappingFault?, htruth]
          rfl

theorem sectionEntries_eq (root : Entries) (name : String) :
    sectionEntries root name =
      settle ((Value.lookup? root name).bind fun given =>
        mappingFault? (.sectionNotMapping name given.typeName) given)
        (((Value.lookup? root name).map entriesOf).getD []) := by
  rw [sectionEntries]
  cases Value.lookup? root name with
  | none => rfl
  | some given => exact (settle_mappingFault? _ given).symm

theorem textAt_eq (entries : Entries) (key default : String) :
    textAt entries key default =
      settle ((Value.lookup? entries key).bind fun given =>
        if given.isWritable then none else some (.conversion .unwritable))
        (((Value.lookup? entries key).map Value.plain).getD default) := by
  rw [textAt]
  cases Value.lookup? entries key with
  | none => rfl
  | some given =>
      rw [Option.bind_some]
      dsimp only
      rw [Value.checkWritable]
      split
      · rfl
      · rfl

section Sections

variable (raw : Value)

/-- What is read under a key of a section, as far as the section is a mapping. -/
theorem problemAt_eq (default : ProblemSettings) :
    problemAt (entriesOf raw) default =
      settle (Check.problemChecks.findSome? (Check.fault? raw)) (problemOf raw default) := by
  simp only [problemAt, sectionEntries_eq, realAt_eq, integerAt_eq, pure_eq_settle, settle_bind,
    Check.problemChecks, findSome?_cons]
  rfl

theorem rangeAt_eq (name : String) (default : RangeSettings) :
    rangeAt (entriesOf raw) name default =
      settle ((Check.rangeChecks name).findSome? (Check.fault? raw))
        (rangeOf raw name default) := by
  simp only [rangeAt, sectionEntries_eq, realAt_eq, pure_eq_settle, settle_bind,
    Check.rangeChecks, findSome?_cons]
  rfl

theorem executionAt_eq (default : ExecutionSettings) :
    executionAt (entriesOf raw) default =
      settle (Check.executionChecks.findSome? (Check.fault? raw)) (executionOf raw default) := by
  simp only [executionAt, sectionEntries_eq, integerAt_eq, pure_eq_settle, settle_bind,
    Check.executionChecks, findSome?_cons]
  rfl

theorem outputAt_eq (default : OutputSettings) :
    outputAt (entriesOf raw) default =
      settle (Check.outputChecks.findSome? (Check.fault? raw)) (outputOf raw default) := by
  simp only [outputAt, sectionEntries_eq, textAt_eq, pure_eq_settle, settle_bind,
    Check.outputChecks, findSome?_cons]
  rfl

end Sections

/-- A value is read check by check; the first fault ends it. -/
theorem ofValue_eq (raw : Value) :
    ofValue raw = settle (Check.readingOrder.findSome? (Check.fault? raw)) (described raw) := by
  have hroot : ofValue raw =
      settle (mappingFault? .rootNotMapping raw) (entriesOf raw) >>= ofEntries := by
    have hok (entries : Entries) : (Except.ok entries >>= ofEntries) = ofEntries entries := rfl
    unfold ofValue
    rw [settle_mappingFault?]
    cases !raw.truth with
    | true => exact (hok []).symm
    | false =>
        cases raw with
        | mapping entries => exact (hok entries).symm
        | _ => rfl
  have hentries : ofEntries (entriesOf raw) =
      settle (Check.readingOrder.tail.findSome? (Check.fault? raw)) (described raw) := by
    simp only [ofEntries, problemAt_eq, rangeAt_eq, executionAt_eq, outputAt_eq, pure_eq_settle,
      settle_bind, Check.readingOrder, List.tail_cons, List.findSome?_append, Option.or_none]
    rfl
  rw [hroot, settle_bind_of_eq hentries, Check.readingOrder, findSome?_cons]
  rfl

/-! ### Faults and what is documented -/

namespace Check

theorem mappingFault?_iff (fault : ConfigError) (given : Value) :
    mappingFault? fault given = none ↔
      (IsLeftOutOrMapping given ↔ ¬ (given.truth = false ∧ ¬ IsLeftOutOrMapping given)) := by
  rw [mappingFault?_eq_none_iff]
  by_cases hgiven : IsLeftOutOrMapping given
  · have hpasses : given.truth = false ∨ ∃ entries, given = .mapping entries := by
      obtain rfl | hmapping := hgiven
      · exact Or.inl rfl
      · exact Or.inr hmapping
    simp [hgiven, hpasses]
  · have hno : ¬ ∃ entries, given = .mapping entries := fun hmapping => hgiven (Or.inr hmapping)
    simp [hgiven, hno]

theorem realFault?_iff (name key : String) (given : Value) :
    realFault? key given = none ↔
      ((real name key).Documents given ↔ ¬ (real name key).Deviates given) := by
  cases given with
  | integer number => simp [realFault?, Documents, Deviates]
  | _ => simp [realFault?, Documents, Deviates]

theorem integerFault?_iff (name key : String) (given : Value) :
    integerFault? key given = none ↔
      ((integer name key).Documents given ↔ ¬ (integer name key).Deviates given) := by
  cases given with
  | integer number =>
      rw [integerFault?]
      by_cases hlarge : integerLimit ≤ number.natAbs
      · simp [Documents, Deviates, hlarge]
      · simp [Documents, Deviates, hlarge]
  | real number =>
      rw [integerFault?]
      cases hreading : Reading.ofFloat number with
      | finite value => simp [Documents, Deviates, hreading]
      | _ => simp [Documents, Deviates, hreading]
  | _ => simp [integerFault?, Documents, Deviates]

/-- A check decides as documented, but for the values where it deviates, and there it does not. -/
theorem faultOf?_eq_none_iff (check : Check) (given : Value) :
    check.faultOf? given = none ↔ (check.Documents given ↔ ¬ check.Deviates given) := by
  cases check with
  | root => exact mappingFault?_iff _ given
  | entries name => exact mappingFault?_iff _ given
  | real name key => exact realFault?_iff name key given
  | integer name key => exact integerFault?_iff name key given
  | text name key => simp [faultOf?, Documents, Deviates]

theorem not_deviates_integer (name key : String) {number : Int} (hbits : number.natAbs ≤ 2 ^ 53) :
    ¬ (integer name key).Deviates (.integer number) := by
  obtain ⟨hless, hrounded⟩ := isDoubleInteger_of_natAbs_le hbits
  rintro ⟨_, hsame, hlarge | hne⟩
  · cases hsame
    exact absurd hless hlarge.not_gt
  · cases hsame
    exact hne hrounded

theorem kind_kindFault (key : String) (given : Value) :
    Reportable.kind (kindFault key given) = .value := by
  rw [kindFault]
  split
  · rfl
  · rfl

theorem eq_of_mappingFault? {fault error : ConfigError} {given : Value}
    (hfault : mappingFault? fault given = some error) : error = fault := by
  cases given with
  | mapping entries => cases hfault
  | _ =>
      dsimp only [mappingFault?] at hfault
      split at hfault
      · exact (Option.some.inj hfault).symm
      · cases hfault

theorem kind_realFault? {name key : String} {given : Value} {error : ConfigError}
    (hfault : realFault? key given = some error) :
    (real name key).Overflows given ∧ Reportable.kind error = .overflow ∨
      ¬ (real name key).Overflows given ∧ Reportable.kind error = .value := by
  cases given with
  | integer number =>
      rw [realFault?] at hfault
      split at hfault
      · next hlarge =>
          cases hfault
          exact Or.inl ⟨⟨number, rfl, hlarge⟩, rfl⟩
      · cases hfault
  | real number => cases hfault
  | _ =>
      obtain rfl := Option.some.inj hfault
      exact Or.inr ⟨by simp [Overflows], kind_kindFault key _⟩

theorem kind_integerFault? {name key : String} {given : Value} {error : ConfigError}
    (hfault : integerFault? key given = some error) :
    (integer name key).Overflows given ∧ Reportable.kind error = .overflow ∨
      ¬ (integer name key).Overflows given ∧ Reportable.kind error = .value := by
  cases given with
  | integer number =>
      rw [integerFault?] at hfault
      split at hfault
      · next hlarge =>
          cases hfault
          exact Or.inl ⟨Or.inl ⟨number, rfl, hlarge⟩, rfl⟩
      · next hsmall =>
          split at hfault
          · cases hfault
          · cases hfault
            exact Or.inr ⟨by simpa [Overflows] using hsmall, rfl⟩
  | real number =>
      rw [integerFault?] at hfault
      split at hfault
      · next value hreading =>
          split at hfault
          · cases hfault
          · cases hfault
            exact Or.inr ⟨by simp [Overflows, hreading], rfl⟩
      · next negative hreading =>
          cases hfault
          exact Or.inl ⟨Or.inr ⟨number, negative, rfl, hreading⟩, rfl⟩
      · next hreading =>
          cases hfault
          exact Or.inr ⟨by simp [Overflows, hreading], rfl⟩
  | _ =>
      obtain rfl := Option.some.inj hfault
      exact Or.inr ⟨by simp [Overflows], kind_kindFault key _⟩

theorem kind_faultOf? {check : Check} {given : Value} {error : ConfigError}
    (hfault : check.faultOf? given = some error) :
    check.Overflows given ∧ Reportable.kind error = .overflow ∨
      ¬ check.Overflows given ∧ Reportable.kind error = .value := by
  cases check with
  | root =>
      rw [eq_of_mappingFault? hfault]
      exact Or.inr ⟨not_false, rfl⟩
  | entries name =>
      rw [eq_of_mappingFault? hfault]
      exact Or.inr ⟨not_false, rfl⟩
  | real name key => exact kind_realFault? hfault
  | integer name key => exact kind_integerFault? hfault
  | text name key =>
      dsimp only [faultOf?] at hfault
      split at hfault
      · cases hfault
      · cases hfault
        exact Or.inr ⟨not_false, rfl⟩

theorem fault?_eq_none_iff (raw : Value) (check : Check) :
    check.fault? raw = none ↔
      ∀ given, check.given? raw = some given →
        (check.Documents given ↔ ¬ check.Deviates given) := by
  rw [fault?]
  cases check.given? raw with
  | none => simp
  | some given => simp [faultOf?_eq_none_iff]

end Check

/-- A value that is a configuration as documented. -/
def IsDocumented (raw : Value) : Prop :=
  ∀ check ∈ Check.readingOrder, ∀ given, check.given? raw = some given → check.Documents given

/-- The integers of a value are in the fields as they are. -/
structure HoldsIntegers (raw : Value) (config : RunConfig) : Prop where
  horizon : ∀ number, valueAt raw "problem" "horizon" = some (.integer number) →
    config.problem.horizon = number
  workers : ∀ number, valueAt raw "solver" "workers" = some (.integer number) →
    config.execution.workers = number
  chunkSize : ∀ number, valueAt raw "solver" "chunk_size" = some (.integer number) →
    config.execution.chunkSize = number

theorem holdsIntegers_described (raw : Value) : HoldsIntegers raw (described raw) := by
  have hkeeps (default : Int) {given : Option Value} {number : Int}
      (hgiven : given = some (.integer number)) : integerOr default given = number := by
    rw [hgiven, integerOr]
  exact ⟨fun _ => hkeeps _, fun _ => hkeeps _, fun _ => hkeeps _⟩

theorem exists_ofValue_iff (raw : Value) :
    (∃ config, ofValue raw = .ok config) ↔
      ∀ check ∈ Check.readingOrder, check.fault? raw = none := by
  rw [ofValue_eq, ← List.findSome?_eq_none_iff]
  constructor
  · rintro ⟨config, hconfig⟩
    exact (settle_eq_ok_iff.mp hconfig).1
  · intro hnone
    exact ⟨described raw, settle_eq_ok_iff.mpr ⟨hnone, rfl⟩⟩

/-- A value is read as a configuration if each check finds what is documented, or, where it
deviates, what is not; and none deviates for an integer field that is given an integer of 53 bits.
Then the configuration is the described one, with the integers as they are given.  Otherwise the
first check that finds a fault ends the reading with it: with a wrong value, unless a number
overflows. -/
theorem ofValue_outcome (raw : Value) :
    ((∃ config, ofValue raw = .ok config) ↔
      ∀ check ∈ Check.readingOrder, ∀ given, check.given? raw = some given →
        (check.Documents given ↔ ¬ check.Deviates given)) ∧
    (∀ (name key : String) (number : Int), number.natAbs ≤ 2 ^ 53 →
      ¬ (Check.integer name key).Deviates (.integer number)) ∧
    (∀ config, ofValue raw = .ok config → config = described raw ∧ HoldsIntegers raw config) ∧
    ∀ error, ofValue raw = .error error →
      ∃ earlier check later given, Check.readingOrder = earlier ++ check :: later ∧
        (∀ other ∈ earlier, other.fault? raw = none) ∧ check.given? raw = some given ∧
        check.faultOf? given = some error ∧
          (check.Overflows given ∧ Reportable.kind error = .overflow ∨
            ¬ check.Overflows given ∧ Reportable.kind error = .value) := by
  refine ⟨?_, fun name key _ hbits => Check.not_deviates_integer name key hbits,
    fun config hconfig => ?_, fun error herror => ?_⟩
  · rw [exists_ofValue_iff]
    exact forall₂_congr fun check _ => Check.fault?_eq_none_iff raw check
  · rw [ofValue_eq, settle_eq_ok_iff] at hconfig
    obtain ⟨-, rfl⟩ := hconfig
    exact ⟨rfl, holdsIntegers_described raw⟩
  · rw [ofValue_eq, settle_eq_error_iff, List.findSome?_eq_some_iff] at herror
    obtain ⟨earlier, check, later, horder, hfault, hearlier⟩ := herror
    obtain ⟨given, hgiven, hfault⟩ := Option.bind_eq_some_iff.mp hfault
    exact ⟨earlier, check, later, given, horder, hearlier, hgiven, hfault,
      Check.kind_faultOf? hfault⟩

/-! ### Values that are read otherwise than documented -/

/-- A value with nothing but a problem in it. -/
def withProblem (given : Value) : Value :=
  .mapping [(.text "problem", given)]

/-- A value with nothing but a horizon in it. -/
def withHorizon (given : Value) : Value :=
  withProblem (.mapping [(.text "horizon", given)])

theorem lookup?_singleton (name key : String) (given : Value) :
    Value.lookup? [(.text name, given)] key = if name = key then some given else none := by
  rw [Value.lookup?, List.find?_singleton]
  by_cases hsame : name = key
  · simp [hsame]
  · simp [hsame]

theorem sectionOf_withHorizon (given : Value) (name : String) :
    sectionOf (withHorizon given) name =
      if "problem" = name then some (.mapping [(.text "horizon", given)]) else none :=
  lookup?_singleton _ _ _

theorem valueAt_withHorizon (given : Value) (name key : String) :
    valueAt (withHorizon given) name key =
      if "problem" = name ∧ "horizon" = key then some given else none := by
  rw [valueAt, sectionOf_withHorizon]
  by_cases hname : "problem" = name
  · rw [if_pos hname, Option.map_some, Option.getD_some, entriesOf, lookup?_singleton]
    simp [hname]
  · rw [if_neg hname, Option.map_none, Option.getD_none, if_neg fun hboth => hname hboth.1]
    rfl

theorem findSome?_withHorizon (given : Value) :
    Check.readingOrder.findSome? (Check.fault? (withHorizon given)) =
      integerFault? "horizon" given := by
  have hroot : mappingFault? .rootNotMapping (withHorizon given) = none := rfl
  simp [Check.readingOrder, Check.problemChecks, Check.rangeChecks, Check.executionChecks,
    Check.outputChecks, findSome?_cons, Check.fault?, Check.given?, sectionOf_withHorizon,
    valueAt_withHorizon, Check.faultOf?, hroot]

theorem isDocumented_withHorizon_iff (given : Value) :
    IsDocumented (withHorizon given) ↔ (Check.integer "problem" "horizon").Documents given := by
  have hroot : Check.IsLeftOutOrMapping (withHorizon given) :=
    Check.isLeftOutOrMapping_mapping _
  simp [IsDocumented, Check.readingOrder, Check.problemChecks, Check.rangeChecks,
    Check.executionChecks, Check.outputChecks, Check.given?, sectionOf_withHorizon,
    valueAt_withHorizon, Check.Documents, hroot]

theorem ofValue_withHorizon {given : Value} {error : ConfigError}
    (hfault : integerFault? "horizon" given = some error) :
    ofValue (withHorizon given) = .error error := by
  rw [ofValue_eq, settle_eq_error_iff, findSome?_withHorizon]
  exact hfault

/-- The truth value false is read as a configuration, and an empty list as a section; an integer
horizon that no double has is refused; and an infinite one is no wrong value but an overflow. -/
theorem exists_misread :
    (¬ IsDocumented (.boolean false) ∧ ∃ config, ofValue (.boolean false) = .ok config) ∧
    (¬ IsDocumented (withProblem (.list [])) ∧
      ∃ config, ofValue (withProblem (.list [])) = .ok config) ∧
    (IsDocumented (withHorizon (.integer (2 ^ 53 + 1))) ∧
      ofValue (withHorizon (.integer (2 ^ 53 + 1))) =
        .error (.notInteger "horizon" (.integer (2 ^ 53 + 1)))) ∧
    ∃ error, ¬ IsDocumented (withHorizon (.real (1.0 / 0.0))) ∧
      ofValue (withHorizon (.real (1.0 / 0.0))) = .error error ∧
        Reportable.kind error = .overflow := by
  have haccepted {raw : Value}
      (hnone : Check.readingOrder.findSome? (Check.fault? raw) = none) :
      ∃ config, ofValue raw = .ok config :=
    ⟨described raw, (ofValue_eq raw).trans (settle_eq_ok_iff.mpr ⟨hnone, rfl⟩)⟩
  have hinfinite : Reading.ofFloat (1.0 / 0.0) = .infinite false := by decide +kernel
  refine ⟨⟨fun hdocumented => ?_, haccepted rfl⟩, ⟨fun hdocumented => ?_, haccepted rfl⟩,
    ⟨?_, ofValue_withHorizon ?_⟩, .conversion .infinite, ?_, ofValue_withHorizon ?_, rfl⟩
  · have hroot := hdocumented .root List.mem_cons_self _ rfl
    simp [Check.Documents, Check.IsLeftOutOrMapping] at hroot
  · have hmem : Check.entries "problem" ∈ Check.readingOrder :=
      List.mem_cons_of_mem _ List.mem_cons_self
    have hsection := hdocumented _ hmem (.list []) rfl
    simp [Check.Documents, Check.IsLeftOutOrMapping] at hsection
  · rw [isDocumented_withHorizon_iff]
    exact Or.inl ⟨_, rfl⟩
  · have hsmall : ¬ integerLimit ≤ (2 ^ 53 + 1 : Int).natAbs := by decide +kernel
    have hrounded : roundSigned (2 ^ 53 + 1) ≠ 2 ^ 53 + 1 := by decide +kernel
    rw [integerFault?, if_neg hsmall, if_neg hrounded]
  · rw [isDocumented_withHorizon_iff]
    simp [Check.Documents, hinfinite]
  · simp only [integerFault?, hinfinite]

end RunConfig

end BellmanGrid
