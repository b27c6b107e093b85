import BellmanGrid.Yaml.Tag
import BellmanGrid.Yaml.Tokens

/-!
The nodes of a document, read from its tokens by recursive descent.

A node may have a name, and an alias stands for the node of that name, which may still be open: a
collection can contain itself.  Names are used once.  A collection is told apart from all others by
its place, the number of tokens from its first one on.
-/

namespace BellmanGrid.Yaml

inductive Node where
  | scalar (tag text : String)
  | sequence (place : Nat) (tag : String) (items : List Node)
  | mapping (place : Nat) (tag : String) (entries : List (Node × Node))
  /-- the node of a name -/
  | alias (name : String)
  /-- a node that has a name -/
  | named (name : String) (node : Node)

/-- A document: its root, and the nodes that have names. -/
structure Document where
  root : Node
  named : List (String × Node)

/-- The state of reading: the tokens that are left, the names given so far, the finished nodes that
have names, and the meaning of tag handles. -/
structure NodeReader where
  tokens : List Token
  names : List String
  finished : List (String × Node)
  handles : List (String × String)

namespace NodeReader

def head (reader : NodeReader) : Token :=
  (reader.tokens.head?).getD .streamEnd

def next (reader : NodeReader) : NodeReader :=
  { reader with tokens := reader.tokens.tail }

/-- The number of tokens that are left. -/
def place (reader : NodeReader) : Nat :=
  reader.tokens.length

/-- What is wrong when the next token is none of those that may stand here. -/
def failure (reader : NodeReader) : ScanError :=
  match reader.head with
  | .fault error => error
  | _ => .malformed

def nothing : Node :=
  .scalar (Tag.core "null") ""

/-- The meaning of tag handles that are not redefined. -/
def usualHandles : List (String × String) :=
  [("!", "!"), ("!!", Tag.core "")]

/-- Anchor and tag of a node, in either order.  The tag is given in full. -/
def properties (reader : NodeReader) :
    Except ScanError ((Option String × Option String) × NodeReader) := do
  let fullTag (handle : Option String) (suffix : String) : Except ScanError String :=
    match handle with
    | none => .ok suffix
    | some handle =>
        match reader.handles.lookup handle with
        | some leading => .ok (leading ++ suffix)
        | none => .error reader.next.failure
  match reader.head with
  | .anchor name =>
      match reader.next.head with
      | .tag handle suffix =>
          return ((some name, some (← fullTag handle suffix)), reader.next.next)
      | _ => return ((some name, none), reader.next)
  | .tag handle suffix =>
      let tag ← fullTag handle suffix
      match reader.next.head with
      | .anchor name => return ((some name, some tag), reader.next.next)
      | _ => return ((none, some tag), reader.next)
  | _ => return ((none, none), reader)

/-- Gives a name to the node that follows; a name is given once. -/
def giveName (reader : NodeReader) : Option String → Except ScanError NodeReader
  | none => .ok reader
  | some name =>
      if reader.names.contains name then .error reader.failure
      else .ok { reader with names := name :: reader.names }

/-- Keeps a finished node under its name. -/
def finish (name : Option String) (node : Node) (reader : NodeReader) : Node × NodeReader :=
  match name with
  | none => (node, reader)
  | some name =>
      (.named name node, { reader with finished := (name, node) :: reader.finished })

/-- The tag of a scalar; without one of its own it depends on whether the scalar is plain. -/
def scalarTag (tag : Option String) (text : String) (isPlain : Bool) : String :=
  match tag with
  | none => if isPlain then Tag.ofPlain text else Tag.core "str"
  | some tag => if tag = "!" then Tag.ofPlain text else tag

def collectionTag (tag : Option String) (usual : String) : String :=
  match tag with
  | none => Tag.core usual
  | some tag => if tag = "!" then Tag.core usual else tag

def expect (token : Token) (reader : NodeReader) : Except ScanError NodeReader :=
  if reader.head = token then .ok reader.next else .error reader.failure

def sees (tokens : List Token) (reader : NodeReader) : Bool :=
  tokens.contains reader.head

mutual

/-- Reads a node.  `block` allows block collections, and `indentless` allows the items of a sequence
without an indentation of their own. -/
def node (block indentless : Bool) : (bound : Nat) → NodeReader →
    Except ScanError (Node × NodeReader)
  | 0, _ => .error .malformed
  | bound + 1, reader => do
      if let .alias name := reader.head then
        if reader.names.contains name then return (.alias name, reader.next)
        else throw .malformed
      let ((name, tag), reader) ← reader.properties
      let reader ← reader.giveName name
      let place := reader.place
      let sequence (read : Except ScanError (List Node × NodeReader)) := do
        let (items, reader) ← read
        return reader.finish name (.sequence place (collectionTag tag "seq") items)
      let mapping (read : Except ScanError (List (Node × Node) × NodeReader)) := do
        let (entries, reader) ← read
        return reader.finish name (.mapping place (collectionTag tag "map") entries)
      match reader.head with
      | .blockEntry =>
          if indentless then sequence (looseItems bound reader)
          else if name.isSome || tag.isSome then
            return reader.finish name (.scalar (scalarTag tag "" tag.isNone) "")
          else throw .malformed
      | .scalar text isPlain =>
          return reader.next.finish name (.scalar (scalarTag tag text isPlain) text)
      | .flowSequenceStart => sequence (flowItems true bound reader.next)
      | .flowMappingStart => mapping (flowEntries true bound reader.next)
      | .blockSequenceStart =>
          if block then sequence (blockItems bound reader.next)
          else if name.isSome || tag.isSome then
            return reader.finish name (.scalar (scalarTag tag "" tag.isNone) "")
          else throw .malformed
      | .blockMappingStart =>
          if block then mapping (blockEntries bound reader.next)
          else if name.isSome || tag.isSome then
            return reader.finish name (.scalar (scalarTag tag "" tag.isNone) "")
          else throw .malformed
      | .fault error => throw error
      | _ =>
          if name.isSome || tag.isSome then
            return reader.finish name (.scalar (scalarTag tag "" tag.isNone) "")
          else throw .malformed

/-- Reads the items of a block sequence and its end. -/
def blockItems : (bound : Nat) → NodeReader → Except ScanError (List Node × NodeReader)
  | 0, _ => .error .malformed
  | bound + 1, reader => do
      if reader.head = .blockEntry then
        let reader := reader.next
        let (item, reader) ←
          if reader.sees [.blockEntry, .blockEnd] then pure (nothing, reader)
          else node true false bound reader
        let (items, reader) ← blockItems bound reader
        return (item :: items, reader)
      else return ([], ← reader.expect .blockEnd)

/-- Reads the items of a sequence that has no indentation of its own. -/
def looseItems : (bound : Nat) → NodeReader → Except ScanError (List Node × NodeReader)
  | 0, _ => .error .malformed
  | bound + 1, reader => do
      if reader.head = .blockEntry then
        let reader := reader.next
        let (item, reader) ←
          if reader.sees [.blockEntry, .key, .value, .blockEnd] then pure (nothing, reader)
          else node true false bound reader
        let (items, reader) ← looseItems bound reader
        return (item :: items, reader)
      else return ([], reader)

/-- Reads the entries of a block mapping and its end.  Every entry begins with the mark of its key;
key and value may be left out. -/
def blockEntries : (bound : Nat) → NodeReader →
    Except ScanError (List (Node × Node) × NodeReader)
  | 0, _ => .error .malformed
  | bound + 1, reader => do
      if reader.head = .key then
        let follows : List Token := [.key, .value, .blockEnd]
        let (key, reader) ←
          if reader.next.sees follows then pure (nothing, reader.next)
          else node true true bound reader.next
        let (value, reader) ←
          if reader.head = .value then
            if reader.next.sees follows then pure (nothing, reader.next)
            else node true true bound reader.next
          else pure (nothing, reader)
        let (entries, reader) ← blockEntries bound reader
        return ((key, value) :: entries, reader)
      else return ([], ← reader.expect .blockEnd)

/-- Reads the items of a flow sequence and its end.  An item with a key is a mapping of one
entry. -/
def flowItems (isFirst : Bool) : (bound : Nat) → NodeReader →
    Except ScanError (List Node × NodeReader)
  | 0, _ => .error .malformed
  | bound + 1, reader => do
      if reader.head = .flowSequenceEnd then return ([], reader.next)
      let reader ← if isFirst then pure reader else reader.expect .flowEntry
      if reader.head = .flowSequenceEnd then return ([], reader.next)
      let (item, reader) ←
        if reader.head = .key then do
          let place := reader.place
          let (key, reader) ←
            if reader.next.sees [.value, .flowEntry, .flowSequenceEnd] then
              pure (nothing, reader.next)
            else node false false bound reader.next
          let (value, reader) ← flowValue .flowSequenceEnd bound reader
          pure (.mapping place (Tag.core "map") [(key, value)], reader)
        else node false false bound reader
      let (items, reader) ← flowItems false bound reader
      return (item :: items, reader)

/-- Reads the entries of a flow mapping and its end.  An entry without a key mark has no value. -/
def flowEntries (isFirst : Bool) : (bound : Nat) → NodeReader →
    Except ScanError (List (Node × Node) × NodeReader)
  | 0, _ => .error .malformed
  | bound + 1, reader => do
      if reader.head = .flowMappingEnd then return ([], reader.next)
      let reader ← if isFirst then pure reader else reader.expect .flowEntry
      if reader.head = .flowMappingEnd then return ([], reader.next)
      let ((key, value), reader) ←
        if reader.head = .key then do
          let (key, reader) ←
            if reader.next.sees [.value, .flowEntry, .flowMappingEnd] then
              pure (nothing, reader.next)
            else node false false bound reader.next
          let (value, reader) ← flowValue .flowMappingEnd bound reader
          pure ((key, value), reader)
        else do
          let (key, reader) ← node false false bound reader
          pure ((key, nothing), reader)
      let (entries, reader) ← flowEntries false bound reader
      return ((key, value) :: entries, reader)

/-- Reads the value of an entry between brackets, if it has one. -/
def flowValue (closing : Token) : (bound : Nat) → NodeReader →
    Except ScanError (Node × NodeReader)
  | 0, _ => .error .malformed
  | bound + 1, reader =>
      if reader.head = .value then
        if reader.next.sees [.flowEntry, closing] then .ok (nothing, reader.next)
        else node false false bound reader.next
      else .ok (nothing, reader)

end

/-- Reads directives.  There is at most one version, whose major number is one, and each handle is
defined once. -/
def directives (hasVersion : Bool) (handles : List (String × String)) :
    List Token → Except ScanError (List (String × String) × List Token)
  | .directive (.version major _) :: rest =>
      if hasVersion || major ≠ 1 then .error .malformed else directives true handles rest
  | .directive (.tagHandle handle leading) :: rest =>
      if (handles.lookup handle).isSome then .error .malformed
      else directives hasVersion ((handle, leading) :: handles) rest
  | .directive .reserved :: rest => directives hasVersion handles rest
  | rest => .ok (handles, rest)

/-- Reads the mark of a document after directives; without it the root follows at once. -/
def header (tokens : List Token) :
    Except ScanError (List (String × String) × List Token × Bool) := do
  match tokens with
  | .documentStart :: rest => return (usualHandles, rest, true)
  | .directive _ :: _ =>
      let (handles, rest) ← directives false [] tokens
      match rest with
      | .documentStart :: rest => return (handles ++ usualHandles, rest, true)
      | .fault error :: _ => throw error
      | _ => throw .malformed
  | _ => return (usualHandles, tokens, false)

end NodeReader

/-- The only document of a text, if the text has any. -/
def Document.ofTokens (tokens : List Token) : Except ScanError (Option Document) := do
  if tokens = [.streamEnd] then return none
  let (handles, tokens, isMarked) ← NodeReader.header tokens
  let reader : NodeReader := ⟨tokens, [], [], handles⟩
  let (root, reader) ←
    if isMarked && (match reader.head with
      | .directive _ => true
      | .documentStart => true
      | .documentEnd => true
      | .streamEnd => true
      | _ => false) then pure (NodeReader.nothing, reader)
    else reader.node true false (8 * tokens.length + 8)
  let after : NodeReader :=
    { reader with tokens := reader.tokens.dropWhile (· = Token.documentEnd) }
  if after.tokens = [.streamEnd] then return some ⟨root, reader.finished⟩
  else throw after.failure

end BellmanGrid.Yaml
