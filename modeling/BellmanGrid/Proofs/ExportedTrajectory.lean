import BellmanGrid.Proofs.Admission
import BellmanGrid.Proofs.ReplayPath
import BellmanGrid.Solution.Rows

/-!
What the text of a trajectory tells.

A run has a finite number for each state and each control, because the table it replays is complete.
So the one control that is missing in the text is that of the last time, and the states and controls
can be read again from the text, as far as each number can be read from its own.
-/

namespace BellmanGrid

/-! ### The numbers of a run -/

/-- Finite numbers throughout: a state for each time up to the horizon, and a control for each but
the last. -/
structure Trajectory.Spans {α : Type} [Number α] (trajectory : Trajectory α) (horizon : Nat) :
    Prop where
  states_length : trajectory.states.length = horizon + 1
  controls_length : trajectory.controls.length = horizon
  finite_states : ∀ state ∈ trajectory.states, Number.isFinite state = true
  finite_controls : ∀ control ∈ trajectory.controls, Number.isFinite control = true

/-- A run from a finite state has finite states and controls for its whole horizon. -/
theorem GridProblem.spans_of_run {α : Type} [Number α] [LawfulConversion α] {task : GridProblem α}
    {execution : Execution} {initial : α} {horizon : Nat} {solution : Solution α task}
    (hinitial : Number.isFinite initial = true)
    (hrun : task.run execution initial horizon = .ok solution) :
    solution.horizon = horizon ∧ solution.trajectory.Spans horizon := by
  obtain ⟨_, _, _, hsimulate, hhorizon⟩ := exists_simulate_of_run hrun
  have hreplay := (Replay.simulate_ensures hinitial).good_of_ok hsimulate
  have hcontrols : solution.trajectory.controls.length = horizon := by
    rw [← Nat.zero_add solution.trajectory.controls.length, hreplay.path.ends]
  refine ⟨hhorizon, ⟨?_, hcontrols, hreplay.finite_states, hreplay.finite_controls⟩⟩
  rw [hreplay.path.visited_length, hcontrols]

theorem Solver.spans_of_run {solver : Solver} {initial horizon : Value}
    {solution : Solution Float solver.task} (hrun : solver.run initial horizon = .ok solution) :
    horizon = .integer solution.horizon ∧ solution.trajectory.Spans solution.horizon := by
  simp only [run, bind_eq_ok_iff, mapError_eq_ok_iff] at hrun
  obtain ⟨number, hnumber, length, hlength, hrun⟩ := hrun
  have hstands := checkInitialState_eq_ok_iff.mp hnumber
  obtain ⟨rfl, hspans⟩ := GridProblem.spans_of_run hstands.2 hrun
  exact ⟨checkHorizon_eq_ok_iff.mp hlength, hspans⟩

namespace Trajectory

theorem isAbsent_absent : isAbsent absent = true := by
  decide +kernel

theorem isAbsent_of_isFinite {quantity : Float} (hfinite : Number.isFinite quantity = true) :
    isAbsent quantity = false := by
  rw [isAbsent, nonFinite_ofFloat?_eq_none_iff.mpr hfinite]
  rfl

/-! ### The rows of a trajectory -/

/-- The quantities of the rows are the states and, beside them, the controls with none at the
end. -/
theorem map_rows (trajectory : Trajectory Float) :
    trajectory.rows.map (fun row => (row.state, row.control)) =
      trajectory.states.zip (trajectory.controls ++ [absent]) := by
  rw [rows, List.mapIdx_eq_zipIdx_map, List.map_map]
  exact List.zipIdx_map_fst 0 _

section Rows

variable {trajectory : Trajectory Float} {horizon time : Nat} {row : Row}

theorem time_of_getElem?_rows (hrow : trajectory.rows[time]? = some row) : row.time = time := by
  rw [rows, List.getElem?_mapIdx] at hrow
  obtain ⟨pair, _, rfl⟩ := Option.map_eq_some_iff.mp hrow
  rfl

theorem Spans.length_controls (hspans : trajectory.Spans horizon) :
    (trajectory.controls ++ [absent]).length = trajectory.states.length := by
  rw [List.length_append, hspans.states_length, hspans.controls_length, List.length_singleton]

theorem Spans.map_state_rows (hspans : trajectory.Spans horizon) :
    trajectory.rows.map Row.state = trajectory.states := by
  have hfirst := congrArg (List.map Prod.fst) trajectory.map_rows
  rwa [List.map_map, List.map_fst_zip hspans.length_controls.ge] at hfirst

theorem Spans.map_control_rows (hspans : trajectory.Spans horizon) :
    trajectory.rows.map Row.control = trajectory.controls ++ [absent] := by
  have hsecond := congrArg (List.map Prod.snd) trajectory.map_rows
  rwa [List.map_map, List.map_snd_zip hspans.length_controls.le] at hsecond

theorem Spans.length_rows (hspans : trajectory.Spans horizon) :
    trajectory.rows.length = horizon + 1 := by
  rw [← List.length_map Row.state, hspans.map_state_rows, hspans.states_length]

/-- No number stands in the place of the last control, and of no other. -/
theorem Spans.isAbsent_control_iff (hspans : trajectory.Spans horizon)
    (hrow : trajectory.rows[time]? = some row) : isAbsent row.control = true ↔ time = horizon := by
  have hcontrol : (trajectory.controls ++ [absent])[time]? = some row.control := by
    rw [← hspans.map_control_rows, List.getElem?_map, hrow, Option.map_some]
  obtain ⟨htime, _⟩ := List.getElem?_eq_some_iff.mp hrow
  rw [hspans.length_rows] at htime
  rcases Nat.lt_succ_iff_lt_or_eq.mp htime with hearlier | rfl
  · rw [List.getElem?_append_left (hspans.controls_length.symm ▸ hearlier)] at hcontrol
    have hfinite := hspans.finite_controls _ (List.mem_of_getElem? hcontrol)
    simp [isAbsent_of_isFinite hfinite, hearlier.ne]
  · rw [List.getElem?_append_right hspans.controls_length.le, hspans.controls_length, Nat.sub_self,
      List.getElem?_singleton, if_pos rfl, Option.some.injEq] at hcontrol
    simp [← hcontrol, isAbsent_absent]

end Rows

/-! ### Fields and lines -/

/-- A field that holds no comma and no line end. -/
structure IsPlain (content : String) : Prop where
  comma : ',' ∉ content.toList
  lineEnd : '\n' ∉ content.toList

theorem isPlain_repr (number : Nat) : IsPlain (Nat.repr number) := by
  have hdigit : ∀ character ∈ (Nat.repr number).toList, character.isDigit = true := by
    intro character hmem
    rw [Nat.toList_repr] at hmem
    exact Nat.isDigit_of_mem_toDigits (by decide) (by decide) hmem
  exact ⟨fun hmem => absurd (hdigit _ hmem) (by decide),
    fun hmem => absurd (hdigit _ hmem) (by decide)⟩

/-- The records of a text: its lines, each of them cut at its commas.  What comes after the last
line end is no line. -/
def records (text : String) : List (List String) :=
  (text.toList.splitOn '\n').dropLast.map fun line => (line.splitOn ',').map String.ofList

theorem lineEnd_not_mem_intercalate {fields : List String}
    (hplain : ∀ field ∈ fields, IsPlain field) : '\n' ∉ (",".intercalate fields).toList := by
  induction fields with
  | nil => simp
  | cons field rest ih =>
      cases rest with
      | nil => simpa using (hplain field List.mem_cons_self).lineEnd
      | cons next rest =>
          have hrest := ih fun other hmem => hplain other (List.mem_cons_of_mem field hmem)
          simp only [String.intercalate_cons_cons, String.toList_append, List.mem_append, not_or]
          exact ⟨⟨(hplain field List.mem_cons_self).lineEnd, by decide⟩, hrest⟩

/-- A line is cut into the fields that it was put together from. -/
theorem splitOn_intercalate {fields : List String} (hfields : fields ≠ [])
    (hplain : ∀ field ∈ fields, IsPlain field) :
    ((",".intercalate fields).toList.splitOn ',').map String.ofList = fields := by
  have hcommas : ∀ characters ∈ fields.map String.toList, ',' ∉ characters :=
    List.forall_mem_map.mpr fun field hmem => (hplain field hmem).comma
  have hcomma : ",".toList = [','] := rfl
  rw [String.toList_intercalate, hcomma,
    List.splitOn_intercalate ',' hcommas (mt List.map_eq_nil_iff.mp hfields), List.map_map]
  simp

theorem records_line_append {fields : List String} (hfields : fields ≠ [])
    (hplain : ∀ field ∈ fields, IsPlain field) (rest : String) :
    records (line fields ++ rest) = fields :: records rest := by
  have hcharacters : (line fields ++ rest).toList =
      (",".intercalate fields).toList ++ '\n' :: rest.toList := by
    rw [line, String.toList_append, String.toList_append, List.append_assoc]
    rfl
  rw [records, hcharacters,
    List.splitOn_append_cons_self_of_not_mem (lineEnd_not_mem_intercalate hplain),
    List.dropLast_cons_of_ne_nil (List.splitOn_ne_nil _ _), List.map_cons,
    splitOn_intercalate hfields hplain]
  rfl

/-- The records of lines are the fields that were written in them. -/
theorem records_join_lines {rows : List (List String)}
    (hrows : ∀ fields ∈ rows, fields ≠ [] ∧ ∀ field ∈ fields, IsPlain field) :
    records (String.join (rows.map line)) = rows := by
  induction rows with
  | nil => rfl
  | cons fields rest ih =>
      obtain ⟨hfields, hplain⟩ := hrows fields List.mem_cons_self
      rw [List.map_cons, String.join_cons, records_line_append hfields hplain,
        ih fun other hmem => hrows other (List.mem_cons_of_mem fields hmem)]

/-! ### Reading -/

/-- The quantity in a field, given a reader of numbers; an empty field holds no number. -/
def ofField? (read : String → Option Float) (content : String) : Option Float :=
  if content = "" then some absent else read content

/-- The state and the control in the fields of a row. -/
def quantities? (read : String → Option Float) : List String → Option (Float × Float)
  | [_, state, control] => do
      return (← ofField? read state, ← ofField? read control)
  | _ => none

/-- The states and the controls that a text tells: below the names of the columns, a state in each
line, and a control in each line that has one. -/
def readBack? (read : String → Option Float) (text : String) :
    Option (List Float × List Float) := do
  let pairs ← (records text).tail.mapM (quantities? read)
  return (pairs.map Prod.fst, (pairs.map Prod.snd).filter (!isAbsent ·))

section Reading

variable {text : Float → String} {read : String → Option Float} {quantity : Float}

/-- The text of a number goes into a field as it is, and the number is read from that field. -/
structure IsLegible (text : Float → String) (read : String → Option Float) (number : Float) :
    Prop where
  plain : IsPlain (text number)
  reads : ofField? read (text number) = some number

/-- There is no number, or a finite one whose text is legible. -/
def IsReadable (text : Float → String) (read : String → Option Float) (quantity : Float) : Prop :=
  quantity = absent ∨ Number.isFinite quantity = true ∧ IsLegible text read quantity

theorem field_absent : field text absent = "" :=
  if_pos isAbsent_absent

theorem field_of_isFinite (hfinite : Number.isFinite quantity = true) :
    field text quantity = text quantity := by
  rw [field, isAbsent_of_isFinite hfinite]
  rfl

/-- The text of a finite number is not empty, for an empty field holds no number. -/
theorem IsLegible.ne_empty (hlegible : IsLegible text read quantity)
    (hfinite : Number.isFinite quantity = true) : text quantity ≠ "" := by
  intro hempty
  have hreads := hlegible.reads
  rw [hempty, ofField?, if_pos rfl, Option.some.injEq] at hreads
  have habsent := isAbsent_of_isFinite hfinite
  rw [← hreads, isAbsent_absent] at habsent
  cases habsent

theorem IsReadable.field_eq_empty_iff (hreadable : IsReadable text read quantity) :
    field text quantity = "" ↔ isAbsent quantity = true := by
  obtain rfl | ⟨hfinite, hlegible⟩ := hreadable
  · simp [field_absent, isAbsent_absent]
  · simp [field_of_isFinite hfinite, isAbsent_of_isFinite hfinite, hlegible.ne_empty hfinite]

theorem IsReadable.isPlain_field (hreadable : IsReadable text read quantity) :
    IsPlain (field text quantity) := by
  obtain rfl | ⟨hfinite, hlegible⟩ := hreadable
  · rw [field_absent]
    exact ⟨List.not_mem_nil, List.not_mem_nil⟩
  · rw [field_of_isFinite hfinite]
    exact hlegible.plain

theorem IsReadable.ofField?_field (hreadable : IsReadable text read quantity) :
    ofField? read (field text quantity) = some quantity := by
  obtain rfl | ⟨hfinite, hlegible⟩ := hreadable
  · rw [field_absent, ofField?, if_pos rfl]
  · rw [field_of_isFinite hfinite, hlegible.reads]

theorem quantities?_fields {row : Row} (hstate : IsReadable text read row.state)
    (hcontrol : IsReadable text read row.control) :
    quantities? read (row.fields text) = some (row.state, row.control) := by
  rw [Row.fields, quantities?, hstate.ofField?_field, hcontrol.ofField?_field]
  rfl

theorem Row.isPlain_fields {row : Row} (hstate : IsReadable text read row.state)
    (hcontrol : IsReadable text read row.control) : ∀ field ∈ row.fields text, IsPlain field := by
  simp only [Row.fields, List.forall_mem_cons]
  exact ⟨isPlain_repr row.time, hstate.isPlain_field, hcontrol.isPlain_field, nofun⟩

variable {trajectory : Trajectory Float} {horizon : Nat}

/-- All quantities of the rows can be read if the numbers of the trajectory are legible. -/
theorem Spans.isReadable (hspans : trajectory.Spans horizon)
    (hlegible : ∀ number ∈ trajectory.states ++ trajectory.controls, IsLegible text read number) :
    ∀ row ∈ trajectory.rows, IsReadable text read row.state ∧ IsReadable text read row.control := by
  intro row hrow
  have hstate : row.state ∈ trajectory.states :=
    hspans.map_state_rows ▸ List.mem_map_of_mem hrow
  have hcontrol : row.control ∈ trajectory.controls ++ [absent] :=
    hspans.map_control_rows ▸ List.mem_map_of_mem hrow
  refine ⟨.inr ⟨hspans.finite_states _ hstate, hlegible _ (List.mem_append_left _ hstate)⟩, ?_⟩
  rcases List.mem_append.mp hcontrol with hmem | hmem
  · exact .inr ⟨hspans.finite_controls _ hmem, hlegible _ (List.mem_append_right _ hmem)⟩
  · exact .inl (List.mem_singleton.mp hmem)

theorem records_written (hreadable : ∀ row ∈ trajectory.rows,
      IsReadable text read row.state ∧ IsReadable text read row.control) :
    records (trajectory.written text) = columns :: trajectory.rows.map (Row.fields text) := by
  apply records_join_lines
  rw [List.forall_mem_cons, List.forall_mem_map]
  refine ⟨⟨nofun, ?_⟩, fun row hrow => ⟨nofun, ?_⟩⟩
  · intro name hname
    simp only [columns, List.mem_cons, List.not_mem_nil, or_false] at hname
    rcases hname with rfl | rfl | rfl <;> exact ⟨by decide, by decide⟩
  · exact Row.isPlain_fields (hreadable row hrow).1 (hreadable row hrow).2

theorem mapM_quantities? (hreadable : ∀ row ∈ trajectory.rows,
      IsReadable text read row.state ∧ IsReadable text read row.control) :
    (trajectory.rows.map (Row.fields text)).mapM (quantities? read) =
      some (trajectory.states.zip (trajectory.controls ++ [absent])) := by
  have hrows : ∀ row ∈ trajectory.rows,
      (quantities? read ∘ Row.fields text) row = some (row.state, row.control) :=
    fun row hrow => quantities?_fields (hreadable row hrow).1 (hreadable row hrow).2
  rw [List.mapM_map, mapM_eq_some_map _ hrows, map_rows]

/-- Where there are controls, these are the controls of the trajectory. -/
theorem Spans.filter_controls (hspans : trajectory.Spans horizon) :
    (trajectory.controls ++ [absent]).filter (!isAbsent ·) = trajectory.controls := by
  have hcontrols : trajectory.controls.filter (!isAbsent ·) = trajectory.controls :=
    List.filter_eq_self.mpr fun control hmem => by
      rw [isAbsent_of_isFinite (hspans.finite_controls control hmem)]
      rfl
  rw [List.filter_append, hcontrols, List.filter_singleton, isAbsent_absent]
  exact List.append_nil _

theorem Spans.readBack?_written (hspans : trajectory.Spans horizon)
    (hlegible : ∀ number ∈ trajectory.states ++ trajectory.controls, IsLegible text read number) :
    readBack? read (trajectory.written text) = some (trajectory.states, trajectory.controls) := by
  have hreadable := hspans.isReadable hlegible
  rw [readBack?, records_written hreadable, List.tail_cons, mapM_quantities? hreadable,
    Option.bind_eq_bind, Option.bind_some, List.map_fst_zip hspans.length_controls.ge,
    List.map_snd_zip hspans.length_controls.le, hspans.filter_controls]
  rfl

end Reading

end Trajectory

namespace Solver

/-- The text of a run's trajectory consists of the names of the columns and of a line for each time
from zero to the horizon, in this order.  No control stands in the last line, and one stands in
every other line.  From these lines, the states and the controls of the run are read again, whatever
the texts of numbers are: only those of the states and controls have to fit into a field and to
tell their number. -/
theorem run_told_by_lines {solver : Solver} {initial horizon : Value}
    {solution : Solution Float solver.task} (hrun : solver.run initial horizon = .ok solution)
    {text : Float → String} {read : String → Option Float}
    (hlegible : ∀ number ∈ solution.trajectory.states ++ solution.trajectory.controls,
      Trajectory.IsLegible text read number) :
    ∃ (length : Nat) (rows : List (List String)), horizon = .integer length ∧
      Trajectory.records (solution.trajectory.written text) = ["k", "x", "u"] :: rows ∧
      rows.length = length + 1 ∧
      (∀ time fields, rows[time]? = some fields → ∃ state control,
        fields = [Nat.repr time, state, control] ∧ (control = "" ↔ time = length)) ∧
      Trajectory.readBack? read (solution.trajectory.written text) =
        some (solution.trajectory.states, solution.trajectory.controls) := by
  obtain ⟨hhorizon, hspans⟩ := spans_of_run hrun
  have hreadable := hspans.isReadable hlegible
  refine ⟨solution.horizon, solution.trajectory.rows.map (Trajectory.Row.fields text), hhorizon,
    Trajectory.records_written hreadable, ?_, ?_, hspans.readBack?_written hlegible⟩
  · rw [List.length_map, hspans.length_rows]
  · intro time fields hfields
    rw [List.getElem?_map, Option.map_eq_some_iff] at hfields
    obtain ⟨row, hrow, rfl⟩ := hfields
    have hcontrol := (hreadable row (List.mem_of_getElem? hrow)).2
    refine ⟨Trajectory.field text row.state, Trajectory.field text row.control, ?_, ?_⟩
    · rw [Trajectory.Row.fields, Trajectory.time_of_getElem?_rows hrow]
    · rw [hcontrol.field_eq_empty_iff, hspans.isAbsent_control_iff hrow]

/-- From below zero the tracking problem moves up twice within three steps.  Its trajectory is
written with all digits that the states have after rounding, and read from them again. -/
theorem tracking_told_by_lines :
    ∃ solution, Tracking.solver.run (.real (-0.7)) (.integer 3) = .ok solution ∧
      solution.trajectory.document =
        "k,x,u\n0,-0.7,1.0\n1,0.30000000000000004,0.0\n2,0.30000000000000004,1.0\n3,1.3,\n" ∧
      Trajectory.readBack? Numeral.float? solution.trajectory.document =
        some (solution.trajectory.states, [1.0, 0.0, 1.0]) := by
  have hvalue : (Tracking.solver.run (.real (-0.7)) (.integer 3)).toOption.map
      (fun solution => (solution.trajectory.states, solution.trajectory.controls)) =
        some ([-0.7, -0.7 + 1.0, -0.7 + 1.0, -0.7 + 1.0 + 1.0], [1.0, 0.0, 1.0]) := by
    decide +kernel
  obtain ⟨solution, hrun, htrajectory⟩ := Option.map_eq_some_iff.mp hvalue
  rw [toOption_eq_some_iff] at hrun
  obtain ⟨hstates, hcontrols⟩ := Prod.mk.inj htrajectory
  have hnumbers : ∀ number ∈ [-0.7, -0.7 + 1.0, -0.7 + 1.0, -0.7 + 1.0 + 1.0, 1.0, 0.0, 1.0],
      (',' ∉ (Decimal.text number).toList ∧ '\n' ∉ (Decimal.text number).toList) ∧
        Trajectory.ofField? Numeral.float? (Decimal.text number) = some number := by
    decide +kernel
  have hlegible : ∀ number ∈ solution.trajectory.states ++ solution.trajectory.controls,
      Trajectory.IsLegible Decimal.text Numeral.float? number := by
    rw [hstates, hcontrols]
    intro number hmem
    obtain ⟨⟨hcomma, hlineEnd⟩, hreads⟩ := hnumbers number hmem
    exact ⟨⟨hcomma, hlineEnd⟩, hreads⟩
  obtain ⟨_, _, _, _, _, _, hread⟩ := run_told_by_lines hrun hlegible
  refine ⟨solution, hrun, ?_, ?_⟩
  · rw [Trajectory.document, Trajectory.written, Trajectory.rows, hstates, hcontrols]
    decide +kernel
  · rw [Trajectory.document, hread, hcontrols]

end Solver

end BellmanGrid
