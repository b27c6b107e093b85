/-!
The tokens of a document.
-/

namespace BellmanGrid.Yaml

inductive ScanError where
  | malformed
  /-- an escape with a number that no character has -/
  | noSuchCharacter
  /-- an escape with a number of more than thirty-one bits -/
  | longEscape
  /-- a number in a version with more digits than are read -/
  | longNumeral (count : Nat)
deriving Repr, DecidableEq

inductive Directive where
  | version (major minor : Nat)
  | tagHandle (handle leading : String)
  | reserved
deriving Repr, DecidableEq

/-- The tokens of a document.  Collections in block style begin and end where the indentation
says so. -/
inductive Token where
  | directive (content : Directive)
  | documentStart
  | documentEnd
  | streamEnd
  | blockSequenceStart
  | blockMappingStart
  | blockEnd
  | flowSequenceStart
  | flowSequenceEnd
  | flowMappingStart
  | flowMappingEnd
  | blockEntry
  | flowEntry
  | key
  | value
  | alias (name : String)
  | anchor (name : String)
  | tag (handle : Option String) (suffix : String)
  | scalar (text : String) (isPlain : Bool)
  /-- the place where a text stops having tokens -/
  | fault (error : ScanError)
deriving Repr, DecidableEq

end BellmanGrid.Yaml
