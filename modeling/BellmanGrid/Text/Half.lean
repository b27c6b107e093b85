/-!
Halves of surrogate pairs.

An escape in a text may name a half of a surrogate pair, which is no character and has no encoding.
A text keeps a half as a stand-in: the private character whose number is larger by `0xf0000`.
-/

namespace BellmanGrid.Text

/-- Is a number the one of a half? -/
def isHalf (code : Nat) : Bool :=
  0xd800 ≤ code && code ≤ 0xdfff

/-- How much larger the number of a stand-in is than the number of its half. -/
def standInDistance : Nat :=
  0xf0000

/-- The character of a number, or the stand-in if the number is the one of a half. -/
def characterOf (code : Nat) : Char :=
  Char.ofNat (if isHalf code then code + standInDistance else code)

def half? (character : Char) : Option Nat :=
  let code := character.toNat - standInDistance
  if isHalf code then some code else none

/-- The number of a character, or of the half that it stands for. -/
def codeOf (character : Char) : Nat :=
  (half? character).getD character.toNat

/-- Is a character the stand-in of a half that writes a single byte in the name of a file? -/
def isByteHalf (character : Char) : Bool :=
  (half? character).any fun code => 0xdc80 ≤ code && code ≤ 0xdcff

/-- Where a text has halves that no name of a file can have: the place of the first one, and the
number of halves from there on without a character between them. -/
def unwritableHalves? (text : String) : Option (Nat × Nat) :=
  let characters := text.toList
  let isWritable (character : Char) : Bool := (half? character).isNone || isByteHalf character
  let before := (characters.takeWhile isWritable).length
  let halves := (characters.drop before).takeWhile fun character => (half? character).isSome
  if halves.isEmpty then none else some (before, halves.length)

end BellmanGrid.Text
