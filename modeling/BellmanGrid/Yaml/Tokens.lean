import BellmanGrid.Yaml.Property

/-!
The tokens of a text.

Outside brackets the indentation makes collections begin and end.  A key need not be marked: when a
colon follows what could be a simple key, the marks of the key, and of the mapping if it is a new
one, are put in before it.  A simple key ends on its line and has at most 1024 characters.
-/

namespace BellmanGrid.Yaml

/-- A place where a simple key may have begun: the number of tokens before it, and whether the
document needs a key there. -/
structure SimpleKey where
  tokenNumber : Nat
  required : Bool
  index : Nat
  line : Nat
  column : Nat
deriving Repr, DecidableEq

/-- The state on the way through a text.  Indentations are columns counted from one, so that zero
stands outside of all collections; `keys` has at most one possible key for each depth of
brackets. -/
structure Scanner where
  cursor : Cursor
  tokens : Array Token
  depth : Nat
  indent : Nat
  indents : List Nat
  allowSimpleKey : Bool
  keys : List (Nat × SimpleKey)

namespace Scanner

def start (text : List Char) : Scanner :=
  ⟨Cursor.start text, #[], 0, 0, [], true, []⟩

def push (scanner : Scanner) (token : Token) : Scanner :=
  { scanner with tokens := scanner.tokens.push token }

/-- Skips what stands between tokens: spaces, comments and line ends. -/
def skipToToken : (bound : Nat) → Scanner → Scanner
  | 0, scanner => scanner
  | bound + 1, scanner =>
      let cursor := scanner.cursor.skipComment
      if isBreak cursor.head then
        skipToToken bound { scanner with
          cursor := cursor.lineBreak.2
          allowSimpleKey := scanner.allowSimpleKey || scanner.depth = 0 }
      else { scanner with cursor }

/-- Is the place too far on for a simple key? -/
def isStale (scanner : Scanner) (key : SimpleKey) : Bool :=
  key.line ≠ scanner.cursor.line || 1024 < scanner.cursor.index - key.index

/-- Forgets possible keys that have become too long; one that was needed is an error. -/
def dropStaleKeys (scanner : Scanner) : Except ScanError Scanner :=
  let (stale, keys) := scanner.keys.partition fun entry => scanner.isStale entry.2
  if stale.any (·.2.required) then .error .malformed else .ok { scanner with keys }

/-- Forgets the possible key at the present depth; one that was needed is an error. -/
def removeKey (scanner : Scanner) : Except ScanError Scanner :=
  let (here, keys) := scanner.keys.partition fun entry => entry.1 = scanner.depth
  if here.any (·.2.required) then .error .malformed else .ok { scanner with keys }

/-- Remembers that a simple key may begin here. -/
def saveKey (scanner : Scanner) : Except ScanError Scanner := do
  if scanner.allowSimpleKey then
    let cursor := scanner.cursor
    let required : Bool := scanner.depth = 0 ∧ scanner.indent = cursor.column + 1
    let key : SimpleKey :=
      ⟨scanner.tokens.size, required, cursor.index, cursor.line, cursor.column⟩
    let scanner ← scanner.removeKey
    return { scanner with keys := (scanner.depth, key) :: scanner.keys }
  else return scanner

/-- Ends the collections that are indented further than an indentation. -/
def unwind (indent : Nat) (scanner : Scanner) : Scanner :=
  if scanner.depth ≠ 0 then scanner else go scanner.indents scanner
where
  /-- Ends collections one by one. -/
  go : List Nat → Scanner → Scanner
    | [], scanner => scanner
    | outer :: rest, scanner =>
        if indent < scanner.indent then
          go rest { scanner.push .blockEnd with indent := outer, indents := rest }
        else scanner

/-- Begins a collection if a column is further in than the present indentation. -/
def indentTo (scanner : Scanner) (column : Nat) : Scanner × Bool :=
  if scanner.indent < column + 1 then
    ({ scanner with indent := column + 1, indents := scanner.indent :: scanner.indents }, true)
  else (scanner, false)

def take (scanner : Scanner) (count : Nat) (token : Token) : Scanner :=
  { scanner.push token with cursor := scanner.cursor.forward count }

/-- What precedes a directive or a mark of a document: all collections end. -/
def closeAll (scanner : Scanner) : Except ScanError Scanner := do
  return { ← (scanner.unwind 0).removeKey with allowSimpleKey := false }

def streamEnd (scanner : Scanner) : Except ScanError Scanner := do
  return { (← scanner.closeAll).push .streamEnd with keys := [] }

/-- An opening bracket, which may begin a key. -/
def openFlow (scanner : Scanner) (token : Token) : Except ScanError Scanner := do
  let scanner ← scanner.saveKey
  return { scanner.take 1 token with depth := scanner.depth + 1, allowSimpleKey := true }

def closeFlow (scanner : Scanner) (token : Token) : Except ScanError Scanner := do
  let scanner ← scanner.removeKey
  return { scanner.take 1 token with depth := scanner.depth - 1, allowSimpleKey := false }

def flowEntry (scanner : Scanner) : Except ScanError Scanner := do
  return { ← scanner.removeKey with allowSimpleKey := true }.take 1 .flowEntry

/-- Begins a collection at the present column, where one may begin outside brackets. -/
def beginBlock (scanner : Scanner) (token : Token) : Except ScanError Scanner :=
  if scanner.depth ≠ 0 then .ok scanner
  else if !scanner.allowSimpleKey then .error .malformed
  else
    let (scanner, isNew) := scanner.indentTo scanner.cursor.column
    .ok (if isNew then scanner.push token else scanner)

def blockEntry (scanner : Scanner) : Except ScanError Scanner := do
  let scanner ← scanner.beginBlock .blockSequenceStart
  return { ← scanner.removeKey with allowSimpleKey := true }.take 1 .blockEntry

def key (scanner : Scanner) : Except ScanError Scanner := do
  let scanner ← scanner.beginBlock .blockMappingStart
  return { ← scanner.removeKey with allowSimpleKey := scanner.depth = 0 }.take 1 .key

/-- The mark of a value.  If a simple key may have begun at this depth, it did. -/
def value (scanner : Scanner) : Except ScanError Scanner := do
  match scanner.keys.lookup scanner.depth with
  | some key =>
      let scanner := { scanner with
        keys := scanner.keys.filter (·.1 ≠ scanner.depth)
        tokens := scanner.tokens.insertIdxIfInBounds key.tokenNumber .key
        allowSimpleKey := false }
      let scanner :=
        if scanner.depth ≠ 0 then scanner
        else
          let (scanner, isNew) := scanner.indentTo key.column
          if isNew then
            { scanner with
              tokens := scanner.tokens.insertIdxIfInBounds key.tokenNumber .blockMappingStart }
          else scanner
      return scanner.take 1 .value
  | none =>
      let scanner ← scanner.beginBlock .blockMappingStart
      return { ← scanner.removeKey with allowSimpleKey := scanner.depth = 0 }.take 1 .value

/-- Adds a token that was read from here on and that may begin a key. -/
def keyed (scanner : Scanner) (read : Cursor → Except ScanError (Token × Cursor)) :
    Except ScanError Scanner := do
  let scanner ← scanner.saveKey
  let (token, cursor) ← read scanner.cursor
  return { scanner.push token with cursor, allowSimpleKey := false }

def block (scanner : Scanner) (folded : Bool) : Except ScanError Scanner := do
  let scanner ← scanner.removeKey
  let (text, cursor) ← blockScalar folded scanner.indent scanner.cursor
  return { scanner.push (.scalar text false) with cursor, allowSimpleKey := true }

/-- A plain scalar.  After a line end a simple key may begin. -/
def plain (scanner : Scanner) : Except ScanError Scanner := do
  let scanner ← scanner.saveKey
  let (text, lineEnded, cursor) :=
    plainScalar (scanner.depth ≠ 0) scanner.indent scanner.cursor
  return { scanner.push (.scalar text true) with cursor, allowSimpleKey := lineEnded }

/-- May a plain scalar begin here? -/
def startsPlain (scanner : Scanner) : Bool :=
  let character := scanner.cursor.head
  let indicator := "-?:,[]\x7b\x7d#&*!|>'\"%@".toList.contains character ||
    character.toNat = 0x60
  (!isBlankOrEnd character && !indicator) ||
    (!isBlankOrEnd (scanner.cursor.peek 1) &&
      (character == '-' || (scanner.depth = 0 && (character == '?' || character == ':'))))

/-- Reads the token that begins with a character; the text does not end here. -/
def token (scanner : Scanner) : Except ScanError Scanner := do
  let cursor := scanner.cursor
  let character := cursor.head
  let inFlow : Bool := scanner.depth ≠ 0
  let before := isBlankOrEnd (cursor.peek 1)
  if character = '%' ∧ cursor.column = 0 then
    let scanner ← scanner.closeAll
    let (token, cursor) ← directiveToken scanner.cursor
    return { scanner.push token with cursor }
  else if cursor.column = 0 ∧ cursor.atMarker '-' then
    return (← scanner.closeAll).take 3 .documentStart
  else if cursor.column = 0 ∧ cursor.atMarker '.' then
    return (← scanner.closeAll).take 3 .documentEnd
  else if character = '[' then scanner.openFlow .flowSequenceStart
  else if character = '\x7b' then scanner.openFlow .flowMappingStart
  else if character = ']' then scanner.closeFlow .flowSequenceEnd
  else if character = '\x7d' then scanner.closeFlow .flowMappingEnd
  else if character = ',' then scanner.flowEntry
  else if character = '-' ∧ before then scanner.blockEntry
  else if character = '?' ∧ (inFlow ∨ before) then scanner.key
  else if character = ':' ∧ (inFlow ∨ before) then scanner.value
  else if character = '*' then
    scanner.keyed fun cursor => do
      let (name, cursor) ← anchorName cursor
      return (.alias name, cursor)
  else if character = '&' then
    scanner.keyed fun cursor => do
      let (name, cursor) ← anchorName cursor
      return (.anchor name, cursor)
  else if character = '!' then scanner.keyed tagToken
  else if character = '|' ∧ !inFlow then scanner.block false
  else if character = '>' ∧ !inFlow then scanner.block true
  else if character = '\'' ∨ character = '"' then
    scanner.keyed fun cursor => do
      let (text, cursor) ← quotedScalar (character == '"') cursor
      return (.scalar text false, cursor)
  else if scanner.startsPlain then scanner.plain
  else throw .malformed

/-- Reads the next token, or the end of the text. -/
def advance (scanner : Scanner) : Except ScanError Scanner := do
  let scanner ← (skipToToken (scanner.cursor.rest.length + 1) scanner).dropStaleKeys
  let scanner := scanner.unwind (scanner.cursor.column + 1)
  if scanner.cursor.head = endMark then scanner.streamEnd else scanner.token

/-- The tokens before a place where the text has no next one.  What could still become a key is not
settled, so the tokens stop before it. -/
def stopped (scanner : Scanner) (error : ScanError) : List Token :=
  let unsettled := scanner.keys.filter fun entry => !scanner.isStale entry.2
  let count := (unsettled.map (·.2.tokenNumber)).foldl min scanner.tokens.size
  scanner.tokens.toList.take count ++ [.fault error]

/-- Reads tokens up to the end of the text or to a fault in it.  Each token takes at least one
character, so the bound is the length of the text. -/
def all : (bound : Nat) → Scanner → List Token
  | 0, scanner => scanner.stopped .malformed
  | bound + 1, scanner =>
      match scanner.advance with
      | .error error => scanner.stopped error
      | .ok next =>
          if next.tokens.back? = some .streamEnd then next.tokens.toList else all bound next

end Scanner

/-- The tokens of a text, whose first character may be the mark of the byte order.  A fault stands
where it is met. -/
def tokens (text : String) : List Token :=
  let characters := unifyLines text.toList
  if characters.all isAllowed then
    let scanner := Scanner.start characters
    let scanner := if scanner.cursor.head = byteOrderMark
      then { scanner with cursor := scanner.cursor.next } else scanner
    scanner.all (characters.length + 2)
  else [.fault .malformed]

end BellmanGrid.Yaml
