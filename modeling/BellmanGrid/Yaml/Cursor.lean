/-!
A place in the text of a document: what is left of the text, and where it stands.
-/

namespace BellmanGrid.Yaml

/-- What is left of a text, how many characters came before it, and the line and the column of its
first character. -/
structure Cursor where
  rest : List Char
  index : Nat
  line : Nat
  column : Nat
deriving Repr, DecidableEq

/-- The character that stands for the end of the text; no document contains it. -/
def endMark : Char :=
  Char.ofNat 0

/-- The mark of the byte order, which takes no column. -/
def byteOrderMark : Char :=
  Char.ofNat 0xfeff

def isBreak (character : Char) : Bool :=
  [0x0a, 0x0d, 0x85, 0x2028, 0x2029].contains character.toNat

def isBreakOrEnd (character : Char) : Bool :=
  isBreak character || character == endMark

def isSpaceOrEnd (character : Char) : Bool :=
  character == ' ' || isBreakOrEnd character

/-- Is a character a space or a tab, or does it end a line or the text? -/
def isBlankOrEnd (character : Char) : Bool :=
  character == '\t' || isSpaceOrEnd character

/-- May a character occur in a name or a handle? -/
def isWordCharacter (character : Char) : Bool :=
  character.isAlphanum || character == '-' || character == '_'

/-- Ends every line of a text by a single line feed. -/
def unifyLines : List Char → List Char
  | '\r' :: '\n' :: rest => '\n' :: unifyLines rest
  | '\r' :: rest => '\n' :: unifyLines rest
  | character :: rest => character :: unifyLines rest
  | [] => []

/-- May a character occur in a document? -/
def isAllowed (character : Char) : Bool :=
  let code := character.toNat
  code = 9 || code = 10 || code = 13 || (0x20 ≤ code && code ≤ 0x7e) || code = 0x85 ||
    (0xa0 ≤ code && code ≤ 0xd7ff) || (0xe000 ≤ code && code ≤ 0xfffd) || 0x10000 ≤ code

namespace Cursor

def start (text : List Char) : Cursor :=
  ⟨text, 0, 0, 0⟩

/-- The character that many places ahead. -/
def peek (cursor : Cursor) (ahead : Nat) : Char :=
  (cursor.rest[ahead]?).getD endMark

def head (cursor : Cursor) : Char :=
  (cursor.rest.head?).getD endMark

def next (cursor : Cursor) : Cursor :=
  match cursor.rest with
  | [] => cursor
  | character :: rest =>
      if isBreak character && !(character == '\r' && rest.head? == some '\n') then
        ⟨rest, cursor.index + 1, cursor.line + 1, 0⟩
      else
        ⟨rest, cursor.index + 1, cursor.line,
          if character = byteOrderMark then cursor.column else cursor.column + 1⟩

def forward (cursor : Cursor) : Nat → Cursor
  | 0 => cursor
  | count + 1 => forward cursor.next count

/-- The longest run of characters with a property, and the place after it. -/
def run (property : Char → Bool) (cursor : Cursor) : List Char × Cursor :=
  let taken := cursor.rest.takeWhile property
  (taken, cursor.forward taken.length)

def skip (property : Char → Bool) (cursor : Cursor) : Cursor :=
  (cursor.run property).2

/-- The next characters, that many of them. -/
def ahead (cursor : Cursor) (count : Nat) : List Char :=
  cursor.rest.take count

/-- Takes the end of a line, if the line ends here.  All ends count as a line feed except the line
and the paragraph separator, which stand for themselves. -/
def lineBreak (cursor : Cursor) : List Char × Cursor :=
  let character := cursor.head
  if !isBreak character then ([], cursor)
  else if character.toNat = 0x2028 ∨ character.toNat = 0x2029 then ([character], cursor.next)
  else if cursor.ahead 2 = ['\r', '\n'] then (['\n'], cursor.forward 2)
  else (['\n'], cursor.next)

/-- Do the next characters mark a document, followed by a blank or an end? -/
def atMarker (marker : Char) (cursor : Cursor) : Bool :=
  cursor.ahead 3 == [marker, marker, marker] && isBlankOrEnd (cursor.peek 3)

/-- Does the line begin with one of the two marks of a document? -/
def atSeparator (cursor : Cursor) : Bool :=
  cursor.atMarker '-' || cursor.atMarker '.'

def skipComment (cursor : Cursor) : Cursor :=
  let cursor := cursor.skip (· == ' ')
  if cursor.head = '#' then cursor.skip (!isBreakOrEnd ·) else cursor

end Cursor

end BellmanGrid.Yaml
