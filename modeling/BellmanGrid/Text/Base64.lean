/-!
Bytes written with sixty-four characters, six bits in each.

Characters outside the alphabet are skipped.  The text ends where padding completes a group of four.
-/

namespace BellmanGrid.Text

/-- The six bits of a character of the alphabet. -/
def sextet? (character : Char) : Option Nat :=
  let code := character.toNat
  if 'A' ≤ character ∧ character ≤ 'Z' then some (code - 65)
  else if 'a' ≤ character ∧ character ≤ 'z' then some (code - 71)
  else if '0' ≤ character ∧ character ≤ '9' then some (code + 4)
  else if character = '+' then some 62
  else if character = '/' then some 63
  else none

/-- The sextets up to the end of the text, in reverse.  `pads` counts the padding since the last
sextet. -/
def sextets? (pads : Nat) (reversed : List Nat) : List Char → Option (List Nat)
  | [] => if reversed.length % 4 = 0 then some reversed else none
  | character :: rest =>
      let place := reversed.length % 4
      if character = '=' then
        if 2 ≤ place then
          if 4 ≤ place + pads + 1 then some reversed else sextets? (pads + 1) reversed rest
        else sextets? pads reversed rest
      else match sextet? character with
        | some sextet => sextets? 0 (sextet :: reversed) rest
        | none => sextets? pads reversed rest

/-- The bytes in sextets; bits that fill no byte are left out. -/
def bytesOfSextets : List Nat → List Nat
  | first :: second :: third :: fourth :: rest =>
      (4 * first + second / 16) :: (second % 16 * 16 + third / 4) :: (third % 4 * 64 + fourth) ::
        bytesOfSextets rest
  | [first, second, third] => [4 * first + second / 16, second % 16 * 16 + third / 4]
  | [first, second] => [4 * first + second / 16]
  | _ => []

/-- The bytes that an ASCII text writes, if its padding is right. -/
def bytesOfBase64? (text : String) : Option (List Nat) :=
  let characters := text.toList
  if characters.all (·.toNat < 128) then
    (sextets? 0 [] characters).map fun reversed => bytesOfSextets reversed.reverse
  else none

end BellmanGrid.Text
