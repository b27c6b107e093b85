import BellmanGrid.Number.Numeral
import BellmanGrid.Text.Half
import BellmanGrid.Yaml.Cursor
import BellmanGrid.Yaml.Token

/-!
The texts of scalars: plain, in single or double quotes, and in literal or folded blocks.

Each function starts at the first character of a scalar and hands back its text and the place after
it.  Loops carry a bound, the number of characters that are left.
-/

namespace BellmanGrid.Yaml

def isHexadecimal (character : Char) : Bool :=
  Numeral.isDigit character || ('a' ≤ character && character ≤ 'f') ||
    ('A' ≤ character && character ≤ 'F')

def hexadecimalValue (digits : List Char) : Nat :=
  digits.foldl (fun value digit =>
    16 * value +
      (if Numeral.isDigit digit then digit.toNat - 48
      else if 'a' ≤ digit then digit.toNat - 87
      else digit.toNat - 55)) 0

/-- The character with a number, or the stand-in for a half of a surrogate pair. -/
def characterOf (code : Nat) : Except ScanError Char :=
  if Nat.pow 2 31 ≤ code then .error .longEscape
  else if 0x10ffff < code then .error .noSuchCharacter
  else .ok (Text.characterOf code)

/-- Takes line ends and the spaces of at most `indent` columns after each. -/
def blockBreaks (indent : Nat) : (bound : Nat) → Cursor → List Char × Cursor
  | 0, cursor => ([], cursor)
  | bound + 1, cursor =>
      let spaces := (cursor.rest.takeWhile (· == ' ')).length
      let cursor := cursor.forward (min spaces (indent - cursor.column))
      if isBreak cursor.head then
        let (lineEnd, cursor) := cursor.lineBreak
        let (breaks, cursor) := blockBreaks indent bound cursor
        (lineEnd ++ breaks, cursor)
      else ([], cursor)

/-- Takes the empty lines before the first line of a block, and tells the widest indentation. -/
def blockIndentation (widest : Nat) : (bound : Nat) → Cursor → List Char × Nat × Cursor
  | 0, cursor => ([], widest, cursor)
  | bound + 1, cursor =>
      if cursor.head = ' ' then
        let cursor := cursor.next
        blockIndentation (max widest cursor.column) bound cursor
      else if isBreak cursor.head then
        let (lineEnd, cursor) := cursor.lineBreak
        let (breaks, widest, cursor) := blockIndentation widest bound cursor
        (lineEnd ++ breaks, widest, cursor)
      else ([], widest, cursor)

/-- How a block ends: without line ends, with one, or with all of them. -/
inductive Chomping where
  | strip
  | clip
  | keep
deriving Repr, DecidableEq

def chomping? (sign : Char) : Option Chomping :=
  if sign = '+' then some .keep else if sign = '-' then some .strip else none

/-- Reads a digit that gives the indentation of a block; it is not zero. -/
def blockIncrement (cursor : Cursor) : Except ScanError (Option Nat × Cursor) :=
  if Numeral.isDigit cursor.head then
    if cursor.head = '0' then .error .malformed
    else .ok (some (cursor.head.toNat - 48), cursor.next)
  else .ok (none, cursor)

def blockHeader (cursor : Cursor) : Except ScanError ((Chomping × Option Nat) × Cursor) := do
  let ((chomping, increment), cursor) ← match chomping? cursor.head with
    | some chomping => do
        let (increment, cursor) ← blockIncrement cursor.next
        pure ((chomping, increment), cursor)
    | none => do
        let (increment, cursor) ← blockIncrement cursor
        match increment, chomping? cursor.head with
        | some _, some chomping => pure ((chomping, increment), cursor.next)
        | _, _ => pure ((.clip, increment), cursor)
  if !isSpaceOrEnd cursor.head then throw .malformed
  return ((chomping, increment), cursor)

/-- Skips what is left of a line: spaces, and a comment. -/
def restOfLine (cursor : Cursor) : Except ScanError Cursor :=
  let cursor := cursor.skipComment
  if isBreakOrEnd cursor.head then .ok cursor.lineBreak.2 else .error .malformed

/-- Reads the lines of a block.  `breaks` are the empty lines before the next line. -/
def blockLines (folded : Bool) (chomping : Chomping) (indent : Nat) :
    (bound : Nat) → (breaks : List Char) → Cursor → List Char × Cursor
  | 0, _, cursor => ([], cursor)
  | bound + 1, breaks, cursor =>
      let isSpaced (character : Char) : Bool := character == ' ' || character == '\t'
      let leadingSpace := isSpaced cursor.head
      let (line, cursor) := cursor.run (!isBreakOrEnd ·)
      let (lineEnd, cursor) := cursor.lineBreak
      let (nextBreaks, cursor) := blockBreaks indent (cursor.rest.length + 1) cursor
      if cursor.column = indent ∧ cursor.head ≠ endMark then
        let joint :=
          if folded && lineEnd == ['\n'] && !leadingSpace && !isSpaced cursor.head then
            (if nextBreaks.isEmpty then [' '] else [])
          else lineEnd
        let (lines, cursor) := blockLines folded chomping indent bound nextBreaks cursor
        (breaks ++ line ++ joint ++ lines, cursor)
      else
        let tail := match chomping with
          | .strip => []
          | .clip => lineEnd
          | .keep => lineEnd ++ nextBreaks
        (breaks ++ line ++ tail, cursor)

/-- Reads a block scalar from its indicator on.  `parent` is the indentation of the block around
it, counted from one. -/
def blockScalar (folded : Bool) (parent : Nat) (cursor : Cursor) :
    Except ScanError (String × Cursor) := do
  let ((chomping, increment), cursor) ← blockHeader cursor.next
  let cursor ← restOfLine cursor
  let least := max parent 1
  let bound := cursor.rest.length + 1
  let (indent, breaks, cursor) := match increment with
    | none =>
        let (breaks, widest, cursor) := blockIndentation 0 bound cursor
        (max least widest, breaks, cursor)
    | some increment =>
        let indent := least + increment - 1
        let (breaks, cursor) := blockBreaks indent bound cursor
        (indent, breaks, cursor)
  if cursor.column = indent ∧ cursor.head ≠ endMark then
    let (text, cursor) := blockLines folded chomping indent bound breaks cursor
    return (String.ofList text, cursor)
  else return (String.ofList (if chomping = .keep then breaks else []), cursor)

/-- The characters that an escape of one character stands for. -/
def escapes : List (Char × Nat) :=
  [('0', 0), ('a', 7), ('b', 8), ('t', 9), ('\t', 9), ('n', 10), ('v', 11), ('f', 12), ('r', 13),
    ('e', 27), (' ', 32), ('"', 34), ('\\', 92), ('/', 47), ('N', 0x85), ('_', 0xa0),
    ('L', 0x2028), ('P', 0x2029)]

/-- How many digits follow an escape with a number. -/
def escapeLength? (character : Char) : Option Nat :=
  if character = 'x' then some 2
  else if character = 'u' then some 4
  else if character = 'U' then some 8
  else none

/-- Takes the line ends inside quotes, with the blanks after each; a document must not end there. -/
def quotedBreaks : (bound : Nat) → Cursor → Except ScanError (List Char × Cursor)
  | 0, _ => .error .malformed
  | bound + 1, cursor => do
      if cursor.atSeparator then throw .malformed
      let cursor := cursor.skip fun character => character == ' ' || character == '\t'
      if isBreak cursor.head then
        let (lineEnd, cursor) := cursor.lineBreak
        let (breaks, cursor) ← quotedBreaks bound cursor
        return (lineEnd ++ breaks, cursor)
      else return ([], cursor)

/-- Folds a line end and the empty lines after it: a single line end becomes a space. -/
def foldBreaks (lineEnd breaks : List Char) : List Char :=
  if lineEnd ≠ ['\n'] then lineEnd ++ breaks else if breaks.isEmpty then [' '] else breaks

/-- Reads an escape after its backslash; an escaped line end leaves only the empty lines after
it. -/
def escapeSequence (cursor : Cursor) : Except ScanError (List Char × Cursor) := do
  let character := cursor.head
  match escapes.lookup character, escapeLength? character with
  | some code, _ => return ([Char.ofNat code], cursor.next)
  | none, some length =>
      let digits := cursor.next.ahead length
      if digits.length = length ∧ digits.all isHexadecimal then
        return ([← characterOf (hexadecimalValue digits)], cursor.next.forward length)
      else throw .malformed
  | none, none =>
      if isBreak character then
        let (_, cursor) := cursor.lineBreak
        quotedBreaks (cursor.rest.length + 1) cursor
      else throw .malformed

/-- Reads inside quotes up to the closing quote. -/
def quotedText (double : Bool) : (bound : Nat) → Cursor → Except ScanError (List Char × Cursor)
  | 0, _ => .error .malformed
  | bound + 1, cursor => do
      let quote := if double then '"' else '\''
      let character := cursor.head
      if character = endMark then throw .malformed
      if character = quote then
        if !double && cursor.peek 1 == quote then
          let (text, cursor) ← quotedText double bound (cursor.forward 2)
          return (quote :: text, cursor)
        else return ([], cursor.next)
      let (part, cursor) ←
        if double && character == '\\' then escapeSequence cursor.next
        else if isBlankOrEnd character then do
          let (blanks, cursor) := cursor.run fun c => c == ' ' || c == '\t'
          if isBreak cursor.head then
            let (lineEnd, cursor) := cursor.lineBreak
            let (breaks, cursor) ← quotedBreaks (cursor.rest.length + 1) cursor
            pure (foldBreaks lineEnd breaks, cursor)
          else pure (blanks, cursor)
        else pure ([character], cursor.next)
      let (text, cursor) ← quotedText double bound cursor
      return (part ++ text, cursor)

def quotedScalar (double : Bool) (cursor : Cursor) : Except ScanError (String × Cursor) := do
  let (text, cursor) ← quotedText double (cursor.rest.length + 1) cursor.next
  return (String.ofList text, cursor)

/-- Does a plain scalar stop at the place that many characters ahead? -/
def stopsPlain (inFlow : Bool) (cursor : Cursor) (ahead : Nat) : Bool :=
  let character := cursor.peek ahead
  let following := cursor.peek (ahead + 1)
  isBlankOrEnd character ||
    (character == ':' &&
      (isBlankOrEnd following || (inFlow && [',', '[', ']', '\x7b', '\x7d'].contains following))) ||
    (inFlow && [',', '?', '[', ']', '\x7b', '\x7d'].contains character)

/-- How many characters of a plain scalar follow without a blank. -/
def plainLength (inFlow : Bool) : (bound : Nat) → Cursor → Nat
  | 0, _ => 0
  | bound + 1, cursor =>
      if stopsPlain inFlow cursor 0 then 0 else 1 + plainLength inFlow bound cursor.next

/-- Takes spaces and line ends after a line of a plain scalar; nothing where a document ends. -/
def plainBreaks : (bound : Nat) → Cursor → Option (List Char) × Cursor
  | 0, cursor => (some [], cursor)
  | bound + 1, cursor =>
      if cursor.head = ' ' then plainBreaks bound cursor.next
      else if isBreak cursor.head then
        let (lineEnd, cursor) := cursor.lineBreak
        if cursor.atSeparator then (none, cursor)
        else
          let (breaks, cursor) := plainBreaks bound cursor
          (breaks.map (lineEnd ++ ·), cursor)
      else (some [], cursor)

/-- The blanks between two parts of a plain scalar as they count in its text, and whether a line
ended in them.  No text means that the scalar ends here. -/
def plainSpaces (cursor : Cursor) : List Char × Bool × Cursor :=
  let (spaces, cursor) := cursor.run (· == ' ')
  if isBreak cursor.head then
    let (lineEnd, cursor) := cursor.lineBreak
    if cursor.atSeparator then ([], true, cursor)
    else
      match plainBreaks (cursor.rest.length + 1) cursor with
      | (none, cursor) => ([], true, cursor)
      | (some breaks, cursor) => (foldBreaks lineEnd breaks, true, cursor)
  else (spaces, false, cursor)

/-- Reads the parts of a plain scalar.  `spaces` are the blanks before the next part, and the flag
says whether the scalar last passed a line end. -/
def plainText (inFlow : Bool) (indent : Nat) :
    (bound : Nat) → (spaces : List Char) → (lineEnded : Bool) → Cursor →
      List Char × Bool × Cursor
  | 0, _, lineEnded, cursor => ([], lineEnded, cursor)
  | bound + 1, spaces, lineEnded, cursor =>
      let length :=
        if cursor.head = '#' then 0 else plainLength inFlow (cursor.rest.length + 1) cursor
      if length = 0 then ([], lineEnded, cursor)
      else
        let part := cursor.ahead length
        let (nextSpaces, lineEnded, cursor) := plainSpaces (cursor.forward length)
        if nextSpaces.isEmpty || cursor.head == '#' || (!inFlow && cursor.column < indent) then
          (spaces ++ part, lineEnded, cursor)
        else
          let (text, lineEnded, cursor) :=
            plainText inFlow indent bound nextSpaces lineEnded cursor
          (spaces ++ part ++ text, lineEnded, cursor)

/-- Reads a plain scalar, and tells whether it passed a line end after its last part. -/
def plainScalar (inFlow : Bool) (indent : Nat) (cursor : Cursor) : String × Bool × Cursor :=
  let (text, lineEnded, cursor) :=
    plainText inFlow indent (cursor.rest.length + 1) [] false cursor
  (String.ofList text, lineEnded, cursor)

end BellmanGrid.Yaml
