import BellmanGrid.Yaml.Scalar

/-!
What may stand before a node or a document: anchors, aliases, tags and directives.
-/

namespace BellmanGrid.Yaml

def anchorName (cursor : Cursor) : Except ScanError (String × Cursor) :=
  let (name, cursor) := cursor.next.run isWordCharacter
  let ends := isBlankOrEnd cursor.head ||
    ['?', ':', ',', ']', '\x7d', '%', '@', Char.ofNat 0x60].contains cursor.head
  if name.isEmpty || !ends then .error .malformed else .ok (String.ofList name, cursor)

def isTagCharacter (character : Char) : Bool :=
  character.isAlphanum || "-;/?:@&=+$,_.!~*'()[]%".toList.contains character

/-- Takes bytes that are written as escapes. -/
def escapedBytes : (bound : Nat) → Cursor → Except ScanError (List UInt8 × Cursor)
  | 0, cursor => .ok ([], cursor)
  | bound + 1, cursor => do
      if cursor.head ≠ '%' then return ([], cursor)
      let digits := cursor.next.ahead 2
      if digits.length = 2 ∧ digits.all isHexadecimal then
        let (bytes, cursor) ← escapedBytes bound (cursor.forward 3)
        return (UInt8.ofNat (hexadecimalValue digits) :: bytes, cursor)
      else throw .malformed

/-- Reads the text of a tag, which may have escaped bytes in it. -/
def tagCharacters : (bound : Nat) → Cursor → Except ScanError (List Char × Cursor)
  | 0, cursor => .ok ([], cursor)
  | bound + 1, cursor => do
      if !isTagCharacter cursor.head then return ([], cursor)
      if cursor.head = '%' then
        let (bytes, cursor) ← escapedBytes (cursor.rest.length + 1) cursor
        match String.fromUTF8? ⟨bytes.toArray⟩ with
        | none => throw .malformed
        | some part =>
            let (text, cursor) ← tagCharacters bound cursor
            return (part.toList ++ text, cursor)
      else
        let (text, after) ← tagCharacters bound cursor.next
        return (cursor.head :: text, after)

/-- Reads the text of a tag, which must not be empty. -/
def tagText (cursor : Cursor) : Except ScanError (String × Cursor) := do
  let (text, after) ← tagCharacters (cursor.rest.length + 1) cursor
  if after.index = cursor.index then throw .malformed
  return (String.ofList text, after)

def tagHandle (cursor : Cursor) : Except ScanError (String × Cursor) :=
  if cursor.head ≠ '!' then .error .malformed
  else if cursor.peek 1 = ' ' then .ok ("!", cursor.next)
  else
    let (word, after) := cursor.next.run isWordCharacter
    if after.head = '!' then .ok (String.ofList ('!' :: word ++ ['!']), after.next)
    else .error .malformed

def tagToken (cursor : Cursor) : Except ScanError (Token × Cursor) := do
  let following := cursor.peek 1
  let (token, cursor) ←
    if following = '<' then do
      let (suffix, cursor) ← tagText (cursor.forward 2)
      if cursor.head ≠ '>' then throw .malformed
      pure (Token.tag none suffix, cursor.next)
    else if isBlankOrEnd following then pure (Token.tag none "!", cursor.next)
    else
      let body := cursor.next.rest.takeWhile (!isSpaceOrEnd ·)
      let (handle, cursor) ←
        if body.contains '!' then tagHandle cursor else pure ("!", cursor.next)
      let (suffix, cursor) ← tagText cursor
      pure (Token.tag (some handle) suffix, cursor)
  if !isSpaceOrEnd cursor.head then throw .malformed
  return (token, cursor)

def versionNumber (cursor : Cursor) : Except ScanError (Nat × Cursor) :=
  let (digits, cursor) := cursor.run Numeral.isDigit
  if digits.isEmpty then .error .malformed
  else if Numeral.mostDigits < digits.length then .error (.longNumeral digits.length)
  else .ok (Numeral.naturalOf digits, cursor)

def versionDirective (cursor : Cursor) : Except ScanError (Directive × Cursor) := do
  let (major, cursor) ← versionNumber (cursor.skip (· == ' '))
  if cursor.head ≠ '.' then throw .malformed
  let (minor, cursor) ← versionNumber cursor.next
  if !isSpaceOrEnd cursor.head then throw .malformed
  return (.version major minor, cursor)

/-- Reads the definition of a tag handle. -/
def handleDirective (cursor : Cursor) : Except ScanError (Directive × Cursor) := do
  let (handle, cursor) ← tagHandle (cursor.skip (· == ' '))
  if cursor.head ≠ ' ' then throw .malformed
  let (leading, cursor) ← tagText (cursor.skip (· == ' '))
  if !isSpaceOrEnd cursor.head then throw .malformed
  return (.tagHandle handle leading, cursor)

/-- Reads a directive from its indicator to the end of the line. -/
def directiveToken (cursor : Cursor) : Except ScanError (Token × Cursor) := do
  let (name, cursor) := cursor.next.run isWordCharacter
  if name.isEmpty || !isSpaceOrEnd cursor.head then throw .malformed
  let (content, cursor) ←
    if String.ofList name = "YAML" then versionDirective cursor
    else if String.ofList name = "TAG" then handleDirective cursor
    else pure (.reserved, cursor.skip (!isBreakOrEnd ·))
  return (.directive content, ← restOfLine cursor)

end BellmanGrid.Yaml
