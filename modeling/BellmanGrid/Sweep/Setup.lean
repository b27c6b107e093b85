import BellmanGrid.Problem.Basic
import BellmanGrid.Value.Conversion

/-!
What a sweep is asked to do: how it is executed, and over which horizon.
-/

namespace BellmanGrid

/-- How a sweep is executed: the number of workers, and how many states make a block. -/
structure Execution where
  workers : Nat
  chunkSize : Nat
  workers_pos : 0 < workers
  chunkSize_pos : 0 < chunkSize
deriving Repr, DecidableEq

inductive SetupError where
  /-- a value that is no control problem -/
  | notAProblem (typeName : String)
  | conversion (cause : ConversionError)
  | workers (count : Int)
  | chunkSize (given : Value)

instance : Reportable SetupError where
  kind
    | .notAProblem _ => .type
    | .conversion cause => kind cause
    | .workers _ => .value
    | .chunkSize _ => .value
  message
    | .notAProblem typeName => s!"problem must be a ControlProblem, got {typeName}"
    | .conversion cause => message cause
    | .workers count => s!"workers must be at least 1, got {count}"
    | .chunkSize given => s!"chunk_size must be at least 1, got {given.plain}"

/-- What is handed over as a problem: a problem, or a value of another type. -/
inductive Subject (α : Type) where
  | problem (subject : Problem α)
  | value (given : Value)

def Subject.problem? {α : Type} : Subject α → Except SetupError (Problem α)
  | problem subject => .ok subject
  | value given => .error (.notAProblem given.typeName)

namespace Execution

/-- The number of states in a block when none is asked for. -/
def defaultChunkSize : Nat :=
  256

/-- One worker, blocks of the usual size. -/
def standard : Execution :=
  ⟨1, defaultChunkSize, Nat.one_pos, by decide⟩

theorem toNat_pos {count : Int} (hcount : 1 ≤ count) : 0 < count.toNat := by
  omega

/-- Reads the two options.  No workers at all means one. -/
def ofValues (workers chunkSize : Value) : Except SetupError Execution := do
  let workers ← match workers with
    | .null => pure 1
    | given => given.toInteger.mapError SetupError.conversion
  if hworkers : 1 ≤ workers then
    let chunk ← chunkSize.toInteger.mapError SetupError.conversion
    if hchunk : 1 ≤ chunk then
      return ⟨workers.toNat, chunk.toNat, toNat_pos hworkers, toNat_pos hchunk⟩
    else throw (.chunkSize chunkSize)
  else throw (.workers workers)

end Execution

inductive HorizonError where
  | notAnInteger (given : Value)
  | negative (length : Int)
  /-- a value that has no texts -/
  | unwritable

instance : Reportable HorizonError where
  kind
    | .unwritable => .value
    | _ => .invalidHorizon
  message
    | .notAnInteger given =>
        s!"horizon must be an integer, got {given.typeName} {given.literal}"
    | .negative length => s!"horizon must be non-negative, got {length}"
    | .unwritable => message ConversionError.unwritable

/-- Accepts an integer that is not negative as a horizon; a truth value is no integer. -/
def checkHorizon (given : Value) : Except HorizonError Nat :=
  let refuse (error : HorizonError) : Except HorizonError Nat :=
    if given.isWritable then .error error else .error .unwritable
  match given with
  | .integer length => if 0 ≤ length then .ok length.toNat else refuse (.negative length)
  | given => refuse (.notAnInteger given)

end BellmanGrid
