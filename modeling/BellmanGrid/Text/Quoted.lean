import BellmanGrid.Text.Half
import BellmanGrid.Text.Printable

/-!
Texts in quotes.  Single quotes are used unless the text has one and no double quote; the quote in
use, backslashes and characters that cannot be shown are escaped.
-/

namespace BellmanGrid.Text

/-- A natural in lower-case hexadecimal with zeros in front up to a width. -/
def hexadecimal (size : Nat) (value : Nat) : String :=
  let digits := String.ofList (Nat.toDigits 16 value)
  "".pushn '0' (size - digits.length) ++ digits

/-- The escape of a character by its code point, in the shortest of three lengths. -/
def codeEscape (code : Nat) : String :=
  if code < 256 then "\\x" ++ hexadecimal 2 code
  else if code < 65536 then "\\u" ++ hexadecimal 4 code
  else "\\U" ++ hexadecimal 8 code

def quotedCharacter (quote : Char) (character : Char) : String :=
  if character = quote ∨ character = '\\' then "\\" ++ character.toString
  else if character = '\n' then "\\n"
  else if character = '\r' then "\\r"
  else if character = '\t' then "\\t"
  else if isPrintable character then character.toString
  else codeEscape (codeOf character)

def quoteFor (text : String) : Char :=
  if text.contains '\'' ∧ ¬ text.contains '"' then '"' else '\''

def quoted (text : String) : String :=
  let quote := quoteFor text
  quote.toString ++ String.join (text.toList.map (quotedCharacter quote)) ++ quote.toString

end BellmanGrid.Text
