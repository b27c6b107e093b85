import BellmanGrid.Decimal.Format
import BellmanGrid.Number.Basic

/-!
Lists of numbers in aligned columns.

All numbers of a list are written with up to four places, positionally or with an exponent, whatever
suits the list as a whole.  Points stand below one another, and lines are broken before they pass 74
characters.  Of a long list only the three first and the three last numbers are shown.
-/

namespace BellmanGrid.Decimal

/-- The most places that are written. -/
def alignedPlaces : Nat :=
  4

/-- The number of entries up to which a list is shown in full. -/
def fullLength : Nat :=
  1000

/-- How many entries are shown at either end of a longer list. -/
def edgeLength : Nat :=
  3

def lineWidth : Nat :=
  74

/-- Does a list need exponents?  It does when a magnitude is from `10 ^ 8` on, or below `0.0001`, or
when one is more than a thousand times another; zeros do not count. -/
def needsExponent (numbers : List Float) : Bool :=
  match (numbers.map Float.abs).filter (0.0 < ·) with
  | [] => false
  | first :: rest =>
      let largest := rest.foldl Number.larger first
      let smallest := rest.foldl (fun low number => if number < low then number else low) first
      largest ≥ 1e8 || smallest < 0.0001 || largest / smallest > 1000.0

/-- A number with its sign as the part before the point, the part after it without zeros at the end,
and the exponent. -/
structure Parts where
  whole : String
  part : String
  exponent : Int

def positionalParts (number : Float) : Parts :=
  let value := FiniteDouble.ofFloat number
  let (whole, part) := positional (fixedDigits value alignedPlaces) alignedPlaces
  ⟨signText value.negative ++ whole, trimZeros part, 0⟩

def exponentParts (places : Nat) (number : Float) : Parts :=
  let value := FiniteDouble.ofFloat number
  let (digits, exponent) := scientificDigits value places
  let (whole, part) := positional digits places
  ⟨signText value.negative ++ whole, part, exponent⟩

def longest (texts : List String) : Nat :=
  (texts.map String.length).foldl max 0

def padLeft (width : Nat) (text : String) : String :=
  "".pushn ' ' (width - text.length) ++ text

def padRight (width : Nat) (text : String) : String :=
  text.pushn ' ' (width - text.length)

def positionalWords (numbers : List Float) : List String :=
  let parts := numbers.map positionalParts
  let wholeWidth := longest (parts.map Parts.whole)
  let partWidth := longest (parts.map Parts.part)
  parts.map fun number => padLeft wholeWidth number.whole ++ "." ++ padRight partWidth number.part

/-- The places that a number needs with an exponent: those of its shortest form, or those left of
the most that are written once zeros at the end are dropped, whichever are fewer. -/
def placesNeeded (number : Float) : Nat :=
  let value := FiniteDouble.ofFloat number
  let rounded := (trimZeros (exponentParts alignedPlaces number).part).length
  if value.significand = 0 then 0 else min rounded (width (shortest value).digits - 1)

def exponentWords (numbers : List Float) : List String :=
  let places := (numbers.map placesNeeded).foldl max 0
  let parts := numbers.map (exponentParts places)
  let wholeWidth := longest (parts.map Parts.whole)
  let exponentWidth := max 2 (longest (parts.map fun number => Nat.repr number.exponent.natAbs))
  parts.map fun number =>
    padLeft wholeWidth number.whole ++ "." ++ number.part ++
      (if number.exponent < 0 then "e-" else "e+") ++
      padded exponentWidth number.exponent.natAbs

/-- Puts words on lines after an indent of one space; a word that would pass the width starts a new
line.  `done` holds the finished lines and `line` the one in work. -/
def breakLines (done line : String) : List String → String
  | [] => done ++ line
  | word :: rest =>
      let (done, line) :=
        if lineWidth < line.length + word.length ∧ 1 < line.length then
          (done ++ line.trimAsciiEnd.toString ++ "\n", " ")
        else (done, line)
      match rest with
      | [] => done ++ line ++ word
      | _ => breakLines done (line ++ word ++ " ") rest

/-- The numbers in brackets. -/
def aligned (numbers : List Float) : String :=
  if numbers.isEmpty then "[]"
  else
    let long := fullLength < numbers.length
    let shown :=
      if long then numbers.take edgeLength ++ numbers.drop (numbers.length - edgeLength)
      else numbers
    let words := if needsExponent shown then exponentWords shown else positionalWords shown
    let words := if long then words.take edgeLength ++ ["..."] ++ words.drop edgeLength else words
    "[" ++ ((breakLines "" " " words).drop 1).toString ++ "]"

end BellmanGrid.Decimal
