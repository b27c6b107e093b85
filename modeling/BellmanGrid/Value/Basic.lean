import BellmanGrid.Calendar.Moment
import BellmanGrid.Text.Quoted

/-!
Values of any type, as configuration documents, callbacks and callers hand them over, and their two
texts: the literal form that error messages show, and the plain form, which leaves quotes off.
-/

namespace BellmanGrid

/-- A value of any type.  A mapping keeps the order in which its keys came. -/
inductive Value where
  | null
  | boolean (flag : Bool)
  | integer (value : Int)
  | real (number : Float)
  | complex (realPart imaginaryPart : Float)
  | text (content : String)
  | list (items : List Value)
  | mapping (entries : List (Value × Value))
  | tuple (items : List Value)
  | set (items : List Value)
  | bytes (content : List Nat)
  | date (day : CalendarDate)
  | moment (instant : Moment)
  | again (isMapping : Bool)

namespace Value

def typeName : Value → String
  | null => "NoneType"
  | boolean _ => "bool"
  | integer _ => "int"
  | real _ => "float"
  | complex _ _ => "complex"
  | text _ => "str"
  | list _ => "list"
  | mapping _ => "dict"
  | tuple _ => "tuple"
  | set _ => "set"
  | bytes _ => "bytes"
  | date _ => "date"
  | moment _ => "datetime"
  | again isMapping => if isMapping then "dict" else "list"

/-- Does a value count as true?  Nothing, zero and empty collections do not. -/
def truth : Value → Bool
  | null => false
  | boolean flag => flag
  | integer value => value ≠ 0
  | real number => !(number == 0.0)
  | complex realPart imaginaryPart => !(realPart == 0.0 && imaginaryPart == 0.0)
  | text content => !content.isEmpty
  | list items => !items.isEmpty
  | mapping entries => !entries.isEmpty
  | tuple items => !items.isEmpty
  | set items => !items.isEmpty
  | bytes content => !content.isEmpty
  | date _ => true
  | moment _ => true
  | again _ => true

/-- A complex number: the real part is left out when it is a positive zero. -/
def complexText (realPart imaginaryPart : Float) : String :=
  let imaginaryText := Decimal.shortestText "" imaginaryPart
  if realPart.toBits = 0 then imaginaryText ++ "j"
  else
    let sign := if imaginaryText.startsWith "-" then "" else "+"
    "(" ++ Decimal.shortestText "" realPart ++ sign ++ imaginaryText ++ "j)"

def quotedByte (quote : Char) (byte : Nat) : String :=
  let character := Char.ofNat byte
  if character = quote ∨ character = '\\' then "\\" ++ character.toString
  else if byte = 9 then "\\t"
  else if byte = 10 then "\\n"
  else if byte = 13 then "\\r"
  else if 32 ≤ byte ∧ byte < 127 then character.toString
  else "\\x" ++ Text.hexadecimal 2 byte

def bytesText (content : List Nat) : String :=
  let quote := if content.contains 39 && !content.contains 34 then '"' else '\''
  "b" ++ quote.toString ++ String.join (content.map (quotedByte quote)) ++ quote.toString

mutual

def literal : Value → String
  | null => "None"
  | boolean flag => if flag then "True" else "False"
  | integer value => toString value
  | real number => Decimal.text number
  | complex realPart imaginaryPart => complexText realPart imaginaryPart
  | text content => Text.quoted content
  | list items => "[" ++ ", ".intercalate (literals items) ++ "]"
  | mapping entries => "\x7b" ++ ", ".intercalate (entryLiterals entries) ++ "\x7d"
  | tuple [item] => "(" ++ literal item ++ ",)"
  | tuple items => "(" ++ ", ".intercalate (literals items) ++ ")"
  | set [] => "set()"
  | set items => "\x7b" ++ ", ".intercalate (literals items) ++ "\x7d"
  | bytes content => bytesText content
  | date day => s!"datetime.date({day.year}, {day.month}, {day.day})"
  | moment instant => instant.literal
  | again isMapping => if isMapping then "\x7b...\x7d" else "[...]"

def literals : List Value → List String
  | [] => []
  | item :: rest => literal item :: literals rest

/-- The literal forms of entries, key and value with a colon between them. -/
def entryLiterals : List (Value × Value) → List String
  | [] => []
  | (key, item) :: rest => (literal key ++ ": " ++ literal item) :: entryLiterals rest

end

/-- The plain form of a value: texts, dates and moments stand for themselves. -/
def plain : Value → String
  | text content => content
  | date day => day.text
  | moment instant => instant.text
  | value => value.literal

/-- The value under a text key of a list of entries. -/
def lookup? (entries : List (Value × Value)) (key : String) : Option Value :=
  (entries.find? fun entry =>
    match entry.1 with
    | text content => content == key
    | _ => false).map Prod.snd

end Value

end BellmanGrid
