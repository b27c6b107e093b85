/-!
Decimal digits and blanks of all scripts, and how a text is reduced to ASCII before a number is
read from it.
-/

namespace BellmanGrid.Text

/-- The zeros of the scripts that have decimal digits; the other nine digits follow each zero. -/
def digitZeros : List Nat := [
    48, 1632, 1776, 1984, 2406, 2534, 2662, 2790, 2918, 3046, 3174, 3302, 3430, 3558, 3664, 3792,
    3872, 4160, 4240, 6112, 6160, 6470, 6608, 6784, 6800, 6992, 7088, 7232, 7248, 42528, 43216,
    43264, 43472, 43504, 43600, 44016, 65296, 66720, 68912, 69734, 69872, 69942, 70096, 70384,
    70736, 70864, 71248, 71360, 71472, 71904, 72016, 72784, 73040, 73120, 92768, 92864, 93008,
    120782, 120792, 120802, 120812, 120822, 123200, 123632, 125264, 130032]

/-- The value of a decimal digit of any script. -/
def digitValue? (character : Char) : Option Nat :=
  (digitZeros.find? fun first => first ≤ character.toNat ∧ character.toNat < first + 10).map
    (character.toNat - ·)

def isAsciiBlank (character : Char) : Bool :=
  character = ' ' ∨ (9 ≤ character.toNat ∧ character.toNat ≤ 13)

/-- Blanks outside ASCII. -/
def isWideBlank (character : Char) : Bool :=
  [0x85, 0xa0, 0x1680, 0x2028, 0x2029, 0x202f, 0x205f, 0x3000].contains character.toNat ∨
    (0x2000 ≤ character.toNat ∧ character.toNat ≤ 0x200a)

/-- ASCII for a character of a numeral: digits of other scripts become the usual ones, blanks become
spaces, and what is neither becomes a question mark, which no numeral contains. -/
def foldNumeralCharacter (character : Char) : Char :=
  if character.toNat < 127 then character
  else if isWideBlank character then ' '
  else match digitValue? character with
    | some value => Char.ofNat (48 + value)
    | none => '?'

/-- Drops blanks at both ends. -/
def trimBlanks (characters : List Char) : List Char :=
  ((characters.dropWhile isAsciiBlank).reverse.dropWhile isAsciiBlank).reverse

/-- The characters of a numeral without blanks around it. -/
def numeralCharacters (text : String) : List Char :=
  trimBlanks (text.toList.map foldNumeralCharacter)

end BellmanGrid.Text
