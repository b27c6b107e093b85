import BellmanGrid.Yaml.Content
import BellmanGrid.Yaml.Node

/-!
The merging of mappings.

A mapping with merge keys takes the entries of other mappings before its own.  Merging changes the
mapping for good, and a merge key is used up before its value is looked at, so that mappings may
merge one another in a circle.  In the keys of a mapping that was looked through, the sign for the
value of a mapping is a text.
-/

namespace BellmanGrid.Yaml

abbrev Entries : Type :=
  List (Node × Node)

namespace Node

/-- The name that a node has or stands for. -/
def name? : Node → Option String
  | .alias name => some name
  | .named name _ => some name
  | _ => none

def tag : Node → String
  | .scalar tag _ => tag
  | .sequence _ tag _ => tag
  | .mapping _ tag _ => tag
  | _ => ""

/-- The place of a collection without a name. -/
def place? : Node → Option Nat
  | .sequence place _ _ => some place
  | .mapping place _ _ => some place
  | _ => none

/-- A node without a name under another tag. -/
def withTag (tag : String) : Node → Node
  | .scalar _ text => .scalar tag text
  | .sequence place _ items => .sequence place tag items
  | .mapping place _ entries => .mapping place tag entries
  | node => node

mutual

def size : Node → Nat
  | .sequence _ _ items => 1 + itemsSize items
  | .mapping _ _ entries => 1 + entriesSize entries
  | .named _ node => 1 + node.size
  | _ => 1

def itemsSize : List Node → Nat
  | [] => 0
  | item :: rest => item.size + itemsSize rest

def entriesSize : List (Node × Node) → Nat
  | [] => 0
  | (key, value) :: rest => key.size + value.size + entriesSize rest

end

mutual

/-- Does every alias in a node stand for one of the names? -/
def refersWithin (names : List String) : Node → Bool
  | .alias name => names.contains name
  | .named _ node => node.refersWithin names
  | .sequence _ _ items => itemsReferWithin names items
  | .mapping _ _ entries => entriesReferWithin names entries
  | .scalar _ _ => true

/-- Does every alias in items stand for one of the names? -/
def itemsReferWithin (names : List String) : List Node → Bool
  | [] => true
  | item :: rest => item.refersWithin names && itemsReferWithin names rest

/-- Does every alias in entries stand for one of the names? -/
def entriesReferWithin (names : List String) : List (Node × Node) → Bool
  | [] => true
  | (key, value) :: rest =>
      key.refersWithin names && value.refersWithin names && entriesReferWithin names rest

end

end Node

namespace Tag

def collections : List String :=
  ["seq", "map", "set", "omap", "pairs"].map core

/-- The tags of sequences of pairs, each a mapping with one entry. -/
def pairLists : List String :=
  ["omap", "pairs"].map core

def mappings : List String :=
  ["map", "set"].map core

end Tag

namespace Document

/-- The node that a node stands for, without its name. -/
def target (document : Document) : Node → Node
  | .alias name => (document.named.lookup name).getD (.scalar "" "")
  | .named _ node => node
  | node => node

/-- A bound on the number of merge keys of a document, and on the depth to which it is unfolded: on
the way down every collection is opened at most once after the first two levels. -/
def depthBound (document : Document) : Nat :=
  (document.root.size + 1) * (document.named.length + 4)

def isMergeKey (document : Document) (key : Node) : Bool :=
  (document.target key).tag == Tag.core "merge"

/-- Is this the sign for the value of a mapping? -/
def isValueKey (document : Document) (key : Node) : Bool :=
  (document.target key).tag == Tag.core "value"

/-- A key, in which the sign for the value of a mapping is a text. -/
def plainKey (document : Document) (key : Node) : Node :=
  if document.isValueKey key then (document.target key).withTag (Tag.core "str") else key

end Document

/-- What has become of a document: the entries of the mappings that were looked through, by place,
and the names of the signs that are texts now. -/
structure Merging where
  entries : List (Nat × Entries)
  texts : List String

namespace Merging

def start : Merging :=
  ⟨[], []⟩

/-- The entries of the mapping at a place; at first they are its own. -/
def entriesAt (merging : Merging) (place : Nat) (own : Entries) : Entries :=
  (merging.entries.lookup place).getD own

def put (merging : Merging) (place : Nat) (entries : Entries) : Merging :=
  { merging with
    entries := (place, entries) :: merging.entries.filter fun entry => entry.1 ≠ place }

/-- Is a node a sign that is a text now? -/
def isText (merging : Merging) (node : Node) : Bool :=
  node.name?.any merging.texts.contains

/-- Ends the merging of the mapping at a place with its entries. -/
def settle (merging : Merging) (document : Document) (place : Nat) (entries : Entries) : Merging :=
  let signs := (entries.map Prod.fst).filter document.isValueKey
  let merging := merging.put place (entries.map fun entry => (document.plainKey entry.1, entry.2))
  { merging with texts := signs.filterMap Node.name? ++ merging.texts }

/-- Merges into the mapping at a place, which has `own` entries at first, what its merge keys ask
for; `merged` are the entries from the merge keys before.  Of a sequence of mappings the last one
leads, so that the entries of the first one count. -/
def mergeAt (document : Document) : (bound place : Nat) → (own merged : Entries) → Merging →
    Except YamlError Merging
  | 0, _, _, _, merging => .ok merging
  | bound + 1, place, own, merged, merging => do
      let entries := merging.entriesAt place own
      match entries.find? fun entry => document.isMergeKey entry.1 with
      | none => return merging.settle document place (merged ++ entries)
      | some (_, value) =>
          let merging := merging.put place (entries.eraseP fun entry => document.isMergeKey entry.1)
          let entriesOf (merging : Merging) (node : Node) :
              Except YamlError (Entries × Merging) := do
            match document.target node with
            | .mapping place _ own =>
                let merging ← mergeAt document bound place own [] merging
                return (merging.entriesAt place own, merging)
            | _ => throw .malformed
          let (entries, merging) ← match document.target value with
            | .sequence _ _ items =>
                items.foldlM (fun (entries, merging) item => do
                  let (first, merging) ← entriesOf merging item
                  return (first ++ entries, merging)) ([], merging)
            | _ => entriesOf merging value
          mergeAt document bound place own (merged ++ entries) merging

end Merging

end BellmanGrid.Yaml
