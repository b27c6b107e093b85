import BellmanGrid.Number.Double
import BellmanGrid.Text.Digits

/-!
Numbers read from text: integers, and decimal numbers with a fraction and an exponent.  An
underscore may stand between two digits.  Blanks around a numeral are ignored.
-/

namespace BellmanGrid.Numeral

/-- A digit of the usual ten. -/
def isDigit (character : Char) : Bool :=
  '0' ≤ character ∧ character ≤ '9'

/-- The greatest number of digits that an integer is read from or written with. -/
def mostDigits : Nat :=
  4300

def naturalOf (digits : List Char) : Nat :=
  digits.foldl (fun value digit => 10 * value + (digit.toNat - 48)) 0

/-- Splits a sign off; `true` is a minus. -/
def splitSign : List Char → Bool × List Char
  | '-' :: rest => (true, rest)
  | '+' :: rest => (false, rest)
  | rest => (false, rest)

/-- Takes the underscores out, provided that each one stands between two digits.  `afterDigit` says
that the character before is a digit. -/
def dropUnderscores? : (afterDigit : Bool) → List Char → Option (List Char)
  | _, [] => some []
  | afterDigit, '_' :: rest =>
      match rest with
      | next :: _ =>
          if afterDigit && isDigit next then dropUnderscores? false rest else none
      | [] => none
  | _, character :: rest => (dropUnderscores? (isDigit character) rest).map (character :: ·)

/-- Reads the exponent part of a decimal number, if there is one. -/
def exponent? : List Char → Option Int
  | [] => some 0
  | mark :: rest =>
      if mark = 'e' ∨ mark = 'E' then
        let (negative, digits) := splitSign rest
        if digits.isEmpty ∨ ¬ digits.all isDigit then none
        else some (if negative then -(naturalOf digits : Int) else naturalOf digits)
      else none

/-- Reads an unsigned decimal number: digits with a point somewhere among them, then an exponent. -/
def decimal? (negative : Bool) (characters : List Char) : Option Float :=
  let whole := characters.takeWhile isDigit
  let afterWhole := characters.dropWhile isDigit
  let (part, rest) :=
    match afterWhole with
    | '.' :: tail => (tail.takeWhile isDigit, tail.dropWhile isDigit)
    | _ => ([], afterWhole)
  if whole.isEmpty ∧ part.isEmpty then none
  else (exponent? rest).map fun exponent =>
    nearestDecimal negative (naturalOf (whole ++ part)) (exponent - part.length)

/-- Reads a number, an infinity or the word for no number, in any case of letters. -/
def float? (text : String) : Option Float :=
  match dropUnderscores? false (Text.numeralCharacters text) with
  | none => none
  | some characters =>
      let (negative, body) := splitSign characters
      let word := String.ofList (body.map Char.toLower)
      if word = "inf" ∨ word = "infinity" then some (nearest negative (Nat.pow 2 1024) 1)
      else if word = "nan" then some (0.0 / 0.0)
      else decimal? negative body

/-- The digits of an integer and its sign, if the text is one. -/
def integerDigits? (text : String) : Option (Bool × List Char) :=
  let (negative, body) := splitSign (Text.numeralCharacters text)
  match dropUnderscores? false body with
  | some digits => if digits.isEmpty ∨ ¬ digits.all isDigit then none else some (negative, digits)
  | none => none

/-- How many digits an integer has that a text begins with; none if its underscores are wrong. -/
def leadingDigits (text : String) : Nat :=
  let (_, body) := splitSign (Text.numeralCharacters text)
  let leading := body.takeWhile fun character => isDigit character || character == '_'
  ((dropUnderscores? false leading).map List.length).getD 0

/-- The value of a digit or a letter in a base above ten. -/
def digitIn? (base : Nat) (character : Char) : Option Nat :=
  let value :=
    if isDigit character then character.toNat - 48
    else if 'a' ≤ character ∧ character ≤ 'z' then character.toNat - 87
    else if 'A' ≤ character ∧ character ≤ 'Z' then character.toNat - 55
    else base
  if value < base then some value else none

/-- Drops a zero and the letter that stands for a base. -/
def dropBaseMark (base : Nat) : List Char → List Char
  | '0' :: mark :: rest =>
      let letters := if base = 2 then ['b', 'B'] else if base = 8 then ['o', 'O'] else ['x', 'X']
      if letters.contains mark then rest else '0' :: mark :: rest
  | characters => characters

/-- Reads an integer in base two, eight or sixteen. -/
def integerInBase? (base : Nat) (text : String) : Option Int := do
  let (negative, body) := splitSign (Text.numeralCharacters text)
  let digits ← (dropBaseMark base body).mapM (digitIn? base)
  if digits.isEmpty then none
  let value := digits.foldl (fun value digit => base * value + digit) 0
  return if negative then -(value : Int) else value

end BellmanGrid.Numeral
