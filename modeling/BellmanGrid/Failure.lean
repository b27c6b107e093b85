/-!
How failures are told apart by a caller: each error type of the library has a kind and a text.
-/

namespace BellmanGrid

/-- The kinds of failure that a caller can tell apart, whatever their texts. -/
inductive FailureKind where
  | value
  | type
  | elementType
  | overflow
  | index
  | key
  | attribute
  | runtime
  | recursion
  | memory
  | callback
  | invalidGrid
  | invalidHorizon
  | invalidInitialState
  | malformedDocument
  | fileNotFound
  | fileExists
  | isDirectory
  | notDirectory
  | system
  | encoding
  | exit
  /-- a kind that is known only by the name that the exception of a callback has -/
  | named (name : String)
deriving Repr, DecidableEq

/-- The name under which a kind of failure is reported. -/
def FailureKind.name : FailureKind → String
  | value => "ValueError"
  | type => "TypeError"
  | elementType => "UFuncTypeError"
  | overflow => "OverflowError"
  | index => "IndexError"
  | key => "KeyError"
  | .attribute => "AttributeError"
  | runtime => "RuntimeError"
  | recursion => "RecursionError"
  | memory => "MemoryError"
  | callback => "CallbackError"
  | invalidGrid => "InvalidGridError"
  | invalidHorizon => "InvalidHorizonError"
  | invalidInitialState => "InvalidInitialStateError"
  | malformedDocument => "YAMLError"
  | fileNotFound => "FileNotFoundError"
  | fileExists => "FileExistsError"
  | isDirectory => "IsADirectoryError"
  | notDirectory => "NotADirectoryError"
  | system => "OSError"
  | encoding => "UnicodeEncodeError"
  | exit => "SystemExit"
  | named name => name

/-- An error type whose values have a kind and a text. -/
class Reportable (ε : Type) where
  kind : ε → FailureKind
  message : ε → String

export Reportable (kind message)

end BellmanGrid
