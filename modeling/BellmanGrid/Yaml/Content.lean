import BellmanGrid.Text.Base64
import BellmanGrid.Text.Lower
import BellmanGrid.Value.Conversion
import BellmanGrid.Yaml.Tag
import BellmanGrid.Yaml.Token

/-!
The value of a scalar: its text as its tag says.
-/

namespace BellmanGrid

inductive YamlError where
  /-- a text that is no document, or a document with a node that has no value -/
  | malformed
  /-- an escape with a number that no character has -/
  | noSuchCharacter
  /-- an escape with a number of more than thirty-one bits -/
  | longEscape
  /-- a word that is no truth value -/
  | unknownWord (word : String)
  /-- a numeral without digits -/
  | emptyNumeral
  | conversion (cause : ConversionError)
  /-- a text that is neither a date nor a point in time -/
  | noDate
  /-- a mapping in the place of a date, whatever its entries are -/
  | datedMapping
  /-- a mapping that stands for its own value -/
  | endless
  | calendar (cause : CalendarError)
deriving Repr, DecidableEq

instance : Reportable YamlError where
  kind
    | .malformed => .malformedDocument
    | .noSuchCharacter => .value
    | .longEscape => .overflow
    | .unknownWord _ => .key
    | .emptyNumeral => .index
    | .conversion cause => kind cause
    | .noDate => .attribute
    | .datedMapping => .type
    | .endless => .recursion
    | .calendar _ => .value
  message
    | .malformed => "malformed document"
    | .noSuchCharacter => "chr() arg not in range(0x110000)"
    | .longEscape => "Python int too large to convert to C int"
    | .unknownWord word => Text.quoted word
    | .emptyNumeral => "string index out of range"
    | .conversion cause => message cause
    | .noDate => "'NoneType' object has no attribute 'groupdict'"
    | .datedMapping => "expected string or bytes-like object, got 'list'"
    | .endless => "maximum recursion depth exceeded"
    | .calendar cause => cause.message

namespace Yaml

/-- The error of a text that has no tokens or no nodes. -/
def ScanError.toYamlError : ScanError → YamlError
  | .malformed => .malformed
  | .noSuchCharacter => .noSuchCharacter
  | .longEscape => .longEscape
  | .longNumeral count => .conversion (.tooManyDigits count)

namespace Content

/-- A truth value, in any case of letters. -/
def truth (text : String) : Except YamlError Value :=
  let word := Text.lower text
  if Tag.trueWords.contains word then .ok (.boolean true)
  else if Tag.falseWords.contains word then .ok (.boolean false)
  else .error (.unknownWord word)

/-- Splits the sign off a numeral without its underscores; `true` is a minus. -/
def signed (text : String) : Except YamlError (Bool × List Char) :=
  let characters := text.toList.filter (· ≠ '_')
  if characters.isEmpty then .error .emptyNumeral else .ok (Numeral.splitSign characters)

/-- An integer in base two, eight or sixteen. -/
def integerInBase (base : Nat) (digits : List Char) : Except YamlError Int :=
  let content := String.ofList digits
  match Numeral.integerInBase? base content with
  | some value => .ok value
  | none => .error (.conversion (.unreadableInteger base (Text.quoted content)))

/-- The numerals between colons. -/
def sixtieths (body : List Char) : List String :=
  (Tag.splitAt ':' body).map String.ofList

/-- An integer: binary, hexadecimal, octal, in sixtieths or decimal. -/
def integer (text : String) : Except YamlError Value := do
  let (negative, body) ← signed text
  let value ←
    match body with
    | [] => throw .emptyNumeral
    | ['0'] => pure 0
    | '0' :: 'b' :: digits => integerInBase 2 digits
    | '0' :: 'x' :: digits => integerInBase 16 digits
    | '0' :: _ => integerInBase 8 body
    | _ => do
        let parts ← ((sixtieths body).mapM integerOfText).mapError YamlError.conversion
        pure (parts.foldl (fun value part => 60 * value + part) 0)
  return .integer (if negative then -value else value)

/-- The sum of numerals in sixtieths, from the last one on. -/
def sumOfSixtieths (parts : List Float) : Except ConversionError Float := do
  let weighted ← parts.reverse.zipIdx.mapM fun (part, place) => do
    return part * (← realOfInteger (Int.pow 60 place))
  return weighted.foldl (· + ·) 0.0

/-- A real number: an infinity, no number, in sixtieths or decimal. -/
def real (text : String) : Except YamlError Value := do
  let (negative, body) ← signed (Text.lower text)
  let number ←
    if body = ".inf".toList then pure (nearest false (Nat.pow 2 1024) 1)
    else if body = ".nan".toList then return .real (0.0 / 0.0)
    else (do
      let parts ← (sixtieths body).mapM fun part => (Value.text part).toReal
      match parts with
      | [number] => return number
      | parts => sumOfSixtieths parts).mapError YamlError.conversion
  return .real (if negative then -number else number)

/-- The microseconds that the digits of a fraction write; further digits are left out. -/
def microseconds (fraction : List Char) : Nat :=
  Numeral.naturalOf ((fraction ++ List.replicate 6 '0').take 6)

def offset (zone : Bool × Nat × Nat) : Int :=
  let (isWest, hours, minutes) := zone
  let seconds : Int := 3600 * hours + 60 * minutes
  if isWest then -seconds else seconds

def date (text : String) : Except YamlError Value := do
  match DateFields.ofText? (Text.withoutLineEnd text.toList) with
  | none => throw .noDate
  | some fields =>
      let day : CalendarDate := ⟨fields.year, fields.month, fields.day⟩
      match fields.time with
      | none => return .date (← day.check.mapError YamlError.calendar)
      | some time =>
          let moment : Moment :=
            ⟨day, time.hour, time.minute, time.second, microseconds time.fraction,
              time.zone.map offset⟩
          return .moment (← moment.check.mapError YamlError.calendar)

def bytes (text : String) : Except YamlError Value :=
  match Text.bytesOfBase64? text with
  | some content => .ok (.bytes content)
  | none => .error .malformed

/-- The value of a text under a tag of scalars.  A tag without a meaning is an error. -/
def ofTag (tag text : String) : Except YamlError Value :=
  if tag = Tag.core "null" then .ok .null
  else if tag = Tag.core "bool" then truth text
  else if tag = Tag.core "int" then integer text
  else if tag = Tag.core "float" then real text
  else if tag = Tag.core "binary" then bytes text
  else if tag = Tag.core "timestamp" then date text
  else if tag = Tag.core "str" then .ok (.text text)
  else .error .malformed

end Content

end Yaml

end BellmanGrid
