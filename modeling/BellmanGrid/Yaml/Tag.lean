import BellmanGrid.Number.Numeral
import BellmanGrid.Text.LineEnd

/-!
The tags of nodes, and the tag that a plain scalar has by the look of its text.
-/

namespace BellmanGrid.Yaml

namespace Tag

def core (name : String) : String :=
  "tag:yaml.org,2002:" ++ name

def trueWords : List String :=
  ["yes", "true", "on"]

def falseWords : List String :=
  ["no", "false", "off"]

/-- The spellings of a word in lower case, with a capital, and in upper case. -/
def spellings (word : String) : List String :=
  [word, word.capitalize, word.toUpper]

def splitAt (separator : Char) (characters : List Char) : List (List Char) :=
  characters.foldr (fun character parts =>
    if character = separator then [] :: parts
    else match parts with
      | [] => [[character]]
      | part :: rest => (character :: part) :: rest) [[]]

def isDigitOrUnderscore (character : Char) : Bool :=
  Numeral.isDigit character || character == '_'

def isNumeral : List Char → Bool
  | first :: rest => Numeral.isDigit first && rest.all isDigitOrUnderscore
  | [] => false

/-- Is a text one digit, or two that are below sixty? -/
def isSixtieth : List Char → Bool
  | [digit] => Numeral.isDigit digit
  | [tens, digit] => '0' ≤ tens && tens ≤ '5' && Numeral.isDigit digit
  | _ => false

/-- Is a text an exponent with its sign, or empty? -/
def isExponent : List Char → Bool
  | [] => true
  | mark :: sign :: digits =>
      (mark == 'e' || mark == 'E') && (sign == '-' || sign == '+') && !digits.isEmpty &&
        digits.all Numeral.isDigit
  | _ => false

/-- Drops a sign. -/
def unsigned : List Char → List Char
  | '-' :: rest => rest
  | '+' :: rest => rest
  | characters => characters

/-- Does a text look like an integer: binary, octal, decimal, hexadecimal, or in sixtieths? -/
def looksInteger (text : List Char) : Bool :=
  let body := unsigned text
  match body with
  | '0' :: 'b' :: digits =>
      !digits.isEmpty && digits.all fun digit => digit == '0' || digit == '1' || digit == '_'
  | '0' :: 'x' :: digits =>
      !digits.isEmpty && digits.all fun digit =>
        isDigitOrUnderscore digit || ('a' ≤ digit && digit ≤ 'f') ||
          ('A' ≤ digit && digit ≤ 'F')
  | '0' :: digits => digits.all fun digit => ('0' ≤ digit && digit ≤ '7') || digit == '_'
  | _ =>
      match splitAt ':' body with
      | first :: sixtieths => isNumeral first && sixtieths.all isSixtieth
      | [] => false

/-- Does a text look like a number with a point, an infinity, or no number? -/
def looksReal (text : List Char) : Bool :=
  let body := unsigned text
  let whole := body.takeWhile (· ≠ '.')
  let part := (body.dropWhile (· ≠ '.')).drop 1
  let digits := part.takeWhile isDigitOrUnderscore
  let rest := part.dropWhile isDigitOrUnderscore
  if !body.contains '.' then false
  else if whole.isEmpty then
    [".inf", ".Inf", ".INF"].contains (String.ofList body) ||
      [".nan", ".NaN", ".NAN"].contains (String.ofList text) ||
      (text.length == body.length && isNumeral digits && isExponent rest)
  else
    match splitAt ':' whole with
    | [_] => isNumeral whole && isExponent rest
    | first :: sixtieths => isNumeral first && sixtieths.all isSixtieth && rest.isEmpty
    | [] => false

end Tag

/-- The parts of a point in time; fraction and zone may be left out, as may the time. -/
structure TimeFields where
  hour : Nat
  minute : Nat
  second : Nat
  fraction : List Char
  /-- hours and minutes from universal time with a sign, both zero for universal time itself -/
  zone : Option (Bool × Nat × Nat)
deriving Repr, DecidableEq

/-- The parts of a date with the number of digits of month and day, and of a time. -/
structure DateFields where
  year : Nat
  month : Nat
  day : Nat
  twoDigits : Bool
  time : Option TimeFields
deriving Repr, DecidableEq

namespace DateFields

def digits? (least most : Nat) (characters : List Char) : Option (List Char × List Char) :=
  let digits := (characters.take most).takeWhile Numeral.isDigit
  if least ≤ digits.length then some (digits, characters.drop digits.length) else none

def mark? (character : Char) : List Char → Option (List Char)
  | first :: rest => if first = character then some rest else none
  | [] => none

def isBlank (character : Char) : Bool :=
  character == ' ' || character == '\t'

/-- Reads a zone up to the end of the text. -/
def zone? (characters : List Char) : Option (Option (Bool × Nat × Nat)) :=
  match characters.dropWhile isBlank with
  | ['Z'] => some (some (false, 0, 0))
  | sign :: rest =>
      if sign ≠ '+' ∧ sign ≠ '-' then none
      else do
        let (hour, rest) ← digits? 1 2 rest
        match rest with
        | [] => return some (sign = '-', Numeral.naturalOf hour, 0)
        | ':' :: rest =>
            let (minute, rest) ← digits? 2 2 rest
            if rest.isEmpty then
              return some (sign = '-', Numeral.naturalOf hour, Numeral.naturalOf minute)
            else none
        | _ => none
  | [] => if characters.isEmpty then some none else none

/-- Reads a time up to the end of the text. -/
def time? (characters : List Char) : Option TimeFields := do
  let (hour, rest) ← digits? 1 2 characters
  let (minute, rest) ← digits? 2 2 (← mark? ':' rest)
  let (second, rest) ← digits? 2 2 (← mark? ':' rest)
  let (fraction, rest) := match rest with
    | '.' :: rest => (rest.takeWhile Numeral.isDigit, rest.dropWhile Numeral.isDigit)
    | rest => ([], rest)
  return {
    hour := Numeral.naturalOf hour
    minute := Numeral.naturalOf minute
    second := Numeral.naturalOf second
    fraction
    zone := ← zone? rest }

/-- Reads a date, and after a `T` or blanks a time. -/
def ofText? (characters : List Char) : Option DateFields := do
  let (year, rest) ← digits? 4 4 characters
  let (month, rest) ← digits? 1 2 (← mark? '-' rest)
  let (day, rest) ← digits? 1 2 (← mark? '-' rest)
  let fields : DateFields :=
    ⟨Numeral.naturalOf year, Numeral.naturalOf month, Numeral.naturalOf day,
      month.length == 2 && day.length == 2, none⟩
  match rest with
  | [] => return fields
  | first :: after =>
      if first = 'T' ∨ first = 't' then return { fields with time := some (← time? after) }
      else if isBlank first then
        return { fields with time := some (← time? (after.dropWhile isBlank)) }
      else none

end DateFields

namespace Tag

/-- Does a text look like a date or a point in time?  A date alone has two digits for month and
day. -/
def looksDate (text : List Char) : Bool :=
  match DateFields.ofText? text with
  | some fields => fields.time.isSome || fields.twoDigits
  | none => false

def ofLook (characters : List Char) : String :=
  let text := String.ofList characters
  if ((trueWords ++ falseWords).flatMap spellings).contains text then core "bool"
  else if looksReal characters then core "float"
  else if looksInteger characters then core "int"
  else if text = "<<" then core "merge"
  else if text = "" ∨ text = "~" ∨ (spellings "null").contains text then core "null"
  else if looksDate characters then core "timestamp"
  else if text = "=" then core "value"
  else core "str"

/-- The tag of a plain scalar, and of a scalar whose tag is left open.  A line end after the text
does not change its look, unless the text is nothing else. -/
def ofPlain (text : String) : String :=
  if text = "\n" then core "str" else ofLook (Text.withoutLineEnd text.toList)

end Tag

end BellmanGrid.Yaml
