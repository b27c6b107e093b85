import BellmanGrid.Failure
import BellmanGrid.Number.Numeral
import BellmanGrid.Value.Basic

/-!
Conversions of values to numbers.
-/

namespace BellmanGrid

/-- A literal, cut to two hundred characters. -/
def excerpt (literal : String) : String :=
  String.ofList (literal.toList.take 200)

inductive ConversionError where
  /-- a type that no real number is read from -/
  | notReal (typeName : String)
  /-- a type that no integer is read from -/
  | notInteger (typeName : String)
  /-- the literal of a text that is no decimal numeral -/
  | unreadableReal (literal : String)
  /-- the literal of a text that is no integer numeral in a base -/
  | unreadableInteger (base : Nat) (literal : String)
  /-- an integer numeral with more digits than are read -/
  | tooManyDigits (count : Nat)
  /-- an integer with more digits than are written -/
  | unwritable
  /-- an integer beyond the largest double -/
  | tooLarge
  /-- no number has no integer part -/
  | notANumber
  /-- an infinity has no integer part -/
  | infinite
deriving Repr, DecidableEq

instance : Reportable ConversionError where
  kind
    | .notReal _ => .type
    | .notInteger _ => .type
    | .unreadableReal _ => .value
    | .unreadableInteger _ _ => .value
    | .tooManyDigits _ => .value
    | .unwritable => .value
    | .tooLarge => .overflow
    | .notANumber => .value
    | .infinite => .overflow
  message
    | .notReal typeName =>
        s!"float() argument must be a string or a real number, not '{typeName}'"
    | .notInteger typeName =>
        "int() argument must be a string, a bytes-like object or a real number, not " ++
          s!"'{typeName}'"
    | .unreadableReal literal => s!"could not convert string to float: {literal}"
    | .unreadableInteger base literal =>
        s!"invalid literal for int() with base {base}: {excerpt literal}"
    | .tooManyDigits count =>
        "Exceeds the limit (4300 digits) for integer string conversion: value has " ++
          s!"{count} digits; use sys.set_int_max_str_digits() to increase the limit"
    | .unwritable =>
        "Exceeds the limit (4300 digits) for integer string conversion; " ++
          "use sys.set_int_max_str_digits() to increase the limit"
    | .tooLarge => "int too large to convert to float"
    | .notANumber => "cannot convert float NaN to integer"
    | .infinite => "cannot convert float infinity to integer"

/-- The integer part of a double, taken from its exact reading by the given rounding. -/
def integerPart (rounding : FiniteDouble → Int) (number : Float) : Except ConversionError Int :=
  match Reading.ofFloat number with
  | .finite value => .ok (rounding value)
  | .infinite _ => .error .infinite
  | .notANumber => .error .notANumber

/-- An integer as a double, unless it is beyond the largest one. -/
def realOfInteger (value : Int) : Except ConversionError Float :=
  match nearestInt? value with
  | some number => .ok number
  | none => .error .tooLarge

/-- The characters of a string of bytes.  A byte that is none becomes a question mark, which no
numeral contains. -/
def asciiText (content : List Nat) : String :=
  String.ofList (content.map fun byte => if byte < 128 then Char.ofNat byte else '?')

/-- The real number that a numeral writes; an error shows the literal. -/
def realOfNumeral (literal content : String) : Except ConversionError Float :=
  match Numeral.float? content with
  | some number => .ok number
  | none => .error (.unreadableReal literal)

/-- The integer that a numeral writes; more than 4300 digits are not read.  An error shows the
literal. -/
def integerOfNumeral (literal content : String) : Except ConversionError Int :=
  match Numeral.integerDigits? content with
  | none =>
      let count := Numeral.leadingDigits content
      if Numeral.mostDigits < count then .error (.tooManyDigits count)
      else .error (.unreadableInteger 10 literal)
  | some (negative, digits) =>
      if Numeral.mostDigits < digits.length then .error (.tooManyDigits digits.length)
      else .ok (if negative then -(Numeral.naturalOf digits : Int) else Numeral.naturalOf digits)

def integerOfText (content : String) : Except ConversionError Int :=
  integerOfNumeral (Text.quoted content) content

/-- Does an integer have the exact value of a double? -/
def isExactly (number : Float) (value : Int) : Bool :=
  match Reading.ofFloat number with
  | .finite finite => finite.isIntegral && finite.truncate == value
  | _ => false

namespace Value

mutual

/-- Does a value have texts?  Integers with too many digits have none. -/
def isWritable : Value → Bool
  | integer value => value.natAbs < Nat.pow 10 Numeral.mostDigits
  | list items => areWritable items
  | mapping entries => areWritableEntries entries
  | tuple items => areWritable items
  | set items => areWritable items
  | _ => true

/-- Do all items have texts? -/
def areWritable : List Value → Bool
  | [] => true
  | item :: rest => isWritable item && areWritable rest

/-- Do all keys and values have texts? -/
def areWritableEntries : List (Value × Value) → Bool
  | [] => true
  | (key, item) :: rest => isWritable key && isWritable item && areWritableEntries rest

end

/-- Accepts a value that has texts. -/
def checkWritable (value : Value) : Except ConversionError Value :=
  if value.isWritable then .ok value else .error .unwritable

/-- The real number that a value stands for. -/
def toReal : Value → Except ConversionError Float
  | boolean flag => .ok (if flag then 1.0 else 0.0)
  | integer value => realOfInteger value
  | real number => .ok number
  | text content => realOfNumeral (Text.quoted content) content
  | bytes content => realOfNumeral (bytesText content) (asciiText content)
  | value => .error (.notReal value.typeName)

/-- The integer that a value stands for; a real number loses its fraction. -/
def toInteger : Value → Except ConversionError Int
  | boolean flag => .ok (if flag then 1 else 0)
  | integer value => .ok value
  | real number => integerPart FiniteDouble.truncate number
  | text content => integerOfText content
  | bytes content => integerOfNumeral (bytesText content) (asciiText content)
  | value => .error (.notInteger value.typeName)

end Value

end BellmanGrid
