import BellmanGrid.Grid.Range

/-!
The configuration of a run, and how it is read from a value.

The root is a mapping of five sections, each of them a mapping.  Anything that is left out, and a
section that counts as false, falls back to the reference scenario.
-/

namespace BellmanGrid

@[ext]
structure ProblemSettings where
  a : Float := 4.0
  b : Float := -6.0
  q : Float := 1.0
  r : Float := 2.0
  terminalWeight : Float := 1.0
  target : Float := 20.0
  initial : Float := 8.0
  horizon : Int := 2

@[ext]
structure RangeSettings where
  lower : Float
  upper : Float
  step : Float

@[ext]
structure ExecutionSettings where
  workers : Int := 1
  chunkSize : Int := 256

/-- Where a run writes, and whether it draws a figure. -/
@[ext]
structure OutputSettings where
  directory : String := "output"
  figure : Bool := true

@[ext]
structure RunConfig where
  problem : ProblemSettings := {}
  states : RangeSettings := ⟨-50.0, 50.0, 0.02⟩
  controls : RangeSettings := ⟨-10.0, 10.0, 0.02⟩
  execution : ExecutionSettings := {}
  output : OutputSettings := {}

/-- Why a value is no configuration. -/
inductive ConfigError where
  | rootNotMapping
  | sectionNotMapping (name typeName : String)
  | notNumeric (key : String) (given : Value)
  | notInteger (key : String) (given : Value)
  /-- a number that its field cannot hold -/
  | conversion (cause : ConversionError)

instance : Reportable ConfigError where
  kind
    | .conversion cause => kind cause
    | _ => .value
  message
    | .rootNotMapping => "configuration root must be a mapping"
    | .sectionNotMapping name typeName =>
        s!"config section '{name}' must be a mapping, got {typeName}"
    | .notNumeric key given => s!"config key '{key}' must be numeric, got {given.literal}"
    | .notInteger key given => s!"config key '{key}' must be an integer, got {given.literal}"
    | .conversion cause => message cause

namespace RunConfig

/-- The entries of a mapping, in order. -/
abbrev Entries : Type := List (Value × Value)

/-- The entries of a section; none if it is left out or counts as false. -/
def sectionEntries (root : Entries) (name : String) : Except ConfigError Entries :=
  match Value.lookup? root name with
  | none => .ok []
  | some given =>
      if !given.truth then .ok []
      else match given with
        | .mapping entries => .ok entries
        | _ => .error (.sectionNotMapping name given.typeName)

/-- Accepts an integer or a real number. -/
def checkNumeric (key : String) (given : Value) : Except ConfigError Value :=
  match given with
  | .integer _ => .ok given
  | .real _ => .ok given
  | _ => do throw (.notNumeric key (← given.checkWritable.mapError ConfigError.conversion))

def realAt (entries : Entries) (key : String) (default : Float) : Except ConfigError Float := do
  match Value.lookup? entries key with
  | none => return default
  | some given => (← checkNumeric key given).toReal.mapError ConfigError.conversion

/-- The integer under a key.  The number is compared with its integer part exactly, as a double. -/
def integerAt (entries : Entries) (key : String) (default : Int) : Except ConfigError Int := do
  match Value.lookup? entries key with
  | none => return default
  | some given =>
      let number ← (← checkNumeric key given).toReal.mapError ConfigError.conversion
      let value ← given.toInteger.mapError ConfigError.conversion
      if isExactly number value then return value else throw (.notInteger key given)

def rangeAt (root : Entries) (name : String) (default : RangeSettings) :
    Except ConfigError RangeSettings := do
  let entries ← sectionEntries root name
  return {
    lower := ← realAt entries "min" default.lower
    upper := ← realAt entries "max" default.upper
    step := ← realAt entries "step" default.step }

def problemAt (root : Entries) (default : ProblemSettings) :
    Except ConfigError ProblemSettings := do
  let entries ← sectionEntries root "problem"
  return {
    a := ← realAt entries "a" default.a
    b := ← realAt entries "b" default.b
    q := ← realAt entries "q" default.q
    r := ← realAt entries "r" default.r
    terminalWeight := ← realAt entries "p_terminal" default.terminalWeight
    target := ← realAt entries "x_target" default.target
    initial := ← realAt entries "x0" default.initial
    horizon := ← integerAt entries "horizon" default.horizon }

def executionAt (root : Entries) (default : ExecutionSettings) :
    Except ConfigError ExecutionSettings := do
  let entries ← sectionEntries root "solver"
  return {
    workers := ← integerAt entries "workers" default.workers
    chunkSize := ← integerAt entries "chunk_size" default.chunkSize }

/-- The text under a key: the plain text of any value. -/
def textAt (entries : Entries) (key : String) (default : String) : Except ConfigError String := do
  match Value.lookup? entries key with
  | none => return default
  | some given => return (← given.checkWritable.mapError ConfigError.conversion).plain

/-- The output in its section.  Any value has a truth value. -/
def outputAt (root : Entries) (default : OutputSettings) : Except ConfigError OutputSettings := do
  let entries ← sectionEntries root "output"
  return {
    directory := ← textAt entries "directory" default.directory
    figure := ((Value.lookup? entries "plot").map Value.truth).getD default.figure }

def ofEntries (root : Entries) : Except ConfigError RunConfig := do
  let default : RunConfig := {}
  return {
    problem := ← problemAt root default.problem
    states := ← rangeAt root "state_grid" default.states
    controls := ← rangeAt root "control_grid" default.controls
    execution := ← executionAt root default.execution
    output := ← outputAt root default.output }

/-- The configuration that a value describes; a value that counts as false leaves everything out. -/
def ofValue (raw : Value) : Except ConfigError RunConfig :=
  if !raw.truth then ofEntries []
  else match raw with
    | .mapping entries => ofEntries entries
    | _ => .error .rootNotMapping

end RunConfig

end BellmanGrid
