import BellmanGrid.Value.SetOrder
import BellmanGrid.Yaml.Merge

/-!
The value of a document.

Faults are looked for level by level: the nodes in a collection come after all nodes beside the
collection.  A document without faults has a value, in which an alias stands for the value of its
node.  A collection that contains itself is cut where it begins again; the first two levels, which
a reader of sections looks through, are never cut.
-/

namespace BellmanGrid.Yaml

namespace Document

/-- The text of a scalar, or of the entry that a mapping has for its value.  The bound is used up
where a mapping stands for its own value. -/
def content (document : Document) (merging : Merging) : (bound : Nat) → Node →
    Except YamlError String
  | 0, _ => .error .endless
  | bound + 1, node =>
      let isSign (key : Node) : Bool := document.isValueKey key && !merging.isText key
      match document.target node with
      | .scalar _ text => .ok text
      | .mapping place _ own =>
          match (merging.entriesAt place own).find? fun entry => isSign entry.1 with
          | some entry => document.content merging bound entry.2
          | none => .error .malformed
      | _ => .error .malformed

/-- The value of a node under a tag of scalars.  A date is written as a scalar only. -/
def scalarValue (document : Document) (merging : Merging) (node : Node) :
    Except YamlError Value := do
  let content ← document.content merging document.depthBound node
  match document.target node with
  | .mapping _ tag _ =>
      if tag = Tag.core "timestamp" then throw .datedMapping else Content.ofTag tag content
  | target =>
      Content.ofTag (if merging.isText node then Tag.core "str" else target.tag) content

def isCollection (document : Document) (node : Node) : Bool :=
  Tag.collections.contains (document.target node).tag

/-- The state of the search for faults: the places met so far, what has been merged, and the
collections of the next level, the last one first. -/
structure Search where
  met : List Nat
  merging : Merging
  waiting : List Node

/-- Looks at a node: a scalar needs a value, and a collection waits.  A place is looked at once. -/
def look (document : Document) (search : Search) (node : Node) : Except YamlError Search := do
  let place? := (document.target node).place?
  if place?.any search.met.contains then return search
  let search := { search with met := place?.toList ++ search.met }
  if document.isCollection node then return { search with waiting := node :: search.waiting }
  discard (document.scalarValue search.merging node)
  return search

/-- Looks at an entry.  A collection is no key. -/
def lookAtEntry (document : Document) (search : Search) (entry : Node × Node) :
    Except YamlError Search := do
  let search ← document.look search entry.1
  if document.isCollection entry.1 then throw .malformed
  document.look search entry.2

/-- Looks at a mapping that stands for a pair. -/
def lookAtPair (document : Document) (search : Search) (node : Node) : Except YamlError Search :=
  match document.target node with
  | .mapping place _ own =>
      match search.merging.entriesAt place own with
      | [(key, value)] => do document.look (← document.look search key) value
      | _ => .error .malformed
  | _ => .error .malformed

/-- Looks into a collection, whose kind must be the one of its tag.  A mapping is merged first. -/
def lookInto (document : Document) (search : Search) (node : Node) : Except YamlError Search :=
  match document.target node with
  | .sequence _ tag items =>
      if tag = Tag.core "seq" then items.foldlM document.look search
      else if Tag.pairLists.contains tag then items.foldlM document.lookAtPair search
      else .error .malformed
  | .mapping place tag own =>
      if Tag.mappings.contains tag then do
        let merging ← Merging.mergeAt document document.depthBound place own [] search.merging
        (merging.entriesAt place own).foldlM document.lookAtEntry { search with merging }
      else .error .malformed
  | _ => .error .malformed

/-- Looks into the collections of one level after another, and tells what was merged. -/
def lookDown (document : Document) : (bound : Nat) → Search → Except YamlError Merging
  | 0, search => .ok search.merging
  | bound + 1, search => do
      if search.waiting.isEmpty then return search.merging
      document.lookDown bound
        (← search.waiting.reverse.foldlM document.lookInto { search with waiting := [] })

/-- Accepts a document without faults, and tells what was merged in it. -/
def check (document : Document) : Except YamlError Merging := do
  document.lookDown document.depthBound (← document.look ⟨[], .start, []⟩ document.root)

/-- Are two keys the same?  Numbers and truth values are compared as numbers. -/
def sameKey : Value → Value → Bool
  | .null, .null => true
  | .text left, .text right => left == right
  | .bytes left, .bytes right => left == right
  | .date left, .date right => left == right
  | .moment left, .moment right => left.isSame right
  | .real left, .real right => left == right
  | .real left, right => right.toInteger.toOption.any (isExactly left)
  | left, .real right => left.toInteger.toOption.any (isExactly right)
  | .boolean left, .boolean right => left == right
  | .boolean left, .integer right => (if left then 1 else 0) == right
  | .integer left, .boolean right => left == if right then 1 else 0
  | .integer left, .integer right => left == right
  | _, _ => false

/-- Gives a key its value: a key that is there keeps its place and gets the new value. -/
def insert (entries : List (Value × Value)) (entry : Value × Value) : List (Value × Value) :=
  if entries.any fun old => sameKey old.1 entry.1 then
    entries.map fun old => if sameKey old.1 entry.1 then (old.1, entry.2) else old
  else entries ++ [entry]

/-- What the values of nodes without faults are found from: what was merged, and the values of the
names that are known already. -/
structure Findings where
  merging : Merging
  settled : List (String × Value)

/-- The value of a node without faults.  The places in `opened` are those of the collections around
the node from the second level on. -/
def unfold (document : Document) (findings : Findings) :
    (bound level : Nat) → (opened : List Nat) → Node → Value
  | 0, _, _, _ => .null
  | bound + 1, level, opened, node =>
    match node.name?.bind fun name => findings.settled.lookup name with
    | some value => value
    | none =>
      let place? := (document.target node).place?
      let opened := if level ≤ 2 then [] else opened
      let within := place?.toList ++ opened
      let value (inner : Node) : Value :=
        document.unfold findings bound (level + 1) within inner
      let entry (inner : Node × Node) : Value × Value := (value inner.1, value inner.2)
      let scalar (merging : Merging) : Value :=
        (document.scalarValue merging node).toOption.getD .null
      let isOpen := place?.any opened.contains
      match document.target node with
      | .sequence _ tag items =>
          if isOpen then .again false
          else if tag = Tag.core "seq" then .list (items.map value)
          else .list (items.filterMap fun item =>
            match document.target item with
            | .mapping place _ own =>
                match findings.merging.entriesAt place own with
                | [inner] => some (.tuple [value inner.1, value inner.2])
                | _ => none
            | _ => none)
      | .mapping place tag own =>
          if !document.isCollection node then scalar .start
          else if isOpen then .again true
          else
            let distinct := ((findings.merging.entriesAt place own).map entry).foldl insert []
            if tag = Tag.core "set" then .set (SetOrder.arrange (distinct.map Prod.fst))
            else .mapping distinct
      | _ => scalar findings.merging

/-- The values of the names outside of all collections that contain themselves, each of them found
once.  Names are taken in the order in which their nodes end. -/
def settledValues (document : Document) (merging : Merging) : List (String × Value) :=
  document.named.foldr (fun (name, node) settled =>
    if node.refersWithin (settled.map Prod.fst) then
      (name, document.unfold ⟨merging, settled⟩ document.depthBound 3 [] (.alias name)) :: settled
    else settled) []

def value (document : Document) : Except YamlError Value := do
  let merging ← document.check
  let findings : Findings := ⟨merging, document.settledValues merging⟩
  return document.unfold findings document.depthBound 0 [] document.root

end Document

/-- The value of a text; a text without a document stands for nothing. -/
def valueOf (text : String) : Except YamlError Value := do
  match ← (Document.ofTokens (tokens text)).mapError ScanError.toYamlError with
  | none => return .null
  | some document => document.value

end BellmanGrid.Yaml
