import BellmanGrid.Failure
import BellmanGrid.Figure
import BellmanGrid.Files.Path
import BellmanGrid.Text.Quoted

/-!
Directories with the documents and drawings in them.

A place is a path without dots.  On the way to it every name but the last must be the one of a
directory; a directory without a parent is its own parent.
-/

namespace BellmanGrid

/-- What stands at a place. -/
inductive FileItem where
  | directory
  | document (content : String)
  | drawing (figure : Figure)

/-- Why a path cannot be used as asked. -/
inductive FileError where
  | notFound (path : Path)
  | alreadyThere (path : Path)
  | notADirectory (path : Path)
  | aDirectory (path : Path)
  | nameTooLong (path : Path)
  /-- a path with the character of number zero -/
  | nullCharacter
  /-- a path with halves of surrogate pairs at a place, so many of them -/
  | halves (path : Path) (place count : Nat)
deriving Repr, DecidableEq

instance : Reportable FileError where
  kind
    | .notFound _ => .fileNotFound
    | .alreadyThere _ => .fileExists
    | .notADirectory _ => .notDirectory
    | .aDirectory _ => .isDirectory
    | .nameTooLong _ => .system
    | .nullCharacter => .value
    | .halves _ _ _ => .encoding
  message
    | .notFound path => s!"[Errno 2] No such file or directory: {Text.quoted path.text}"
    | .alreadyThere path => s!"[Errno 17] File exists: {Text.quoted path.text}"
    | .notADirectory path => s!"[Errno 20] Not a directory: {Text.quoted path.text}"
    | .aDirectory path => s!"[Errno 21] Is a directory: {Text.quoted path.text}"
    | .nameTooLong path => s!"[Errno 36] File name too long: {Text.quoted path.text}"
    | .nullCharacter => "embedded null byte"
    | .halves path place count =>
        let half := String.ofList ((path.text.toList.drop place).take 1)
        let what := if count = 1
          then s!"character {Text.quoted half} in position {place}"
          else s!"characters in position {place}-{place + count - 1}"
        s!"'utf-8' codec can't encode {what}: surrogates not allowed"

/-- The items at places; the places without parts are directories that are always there. -/
structure FileTree where
  items : List (Path × FileItem)

namespace FileTree

def item? (tree : FileTree) (place : Path) : Option FileItem :=
  if place.parts.isEmpty then some .directory else tree.items.lookup place

def put (tree : FileTree) (place : Path) (item : FileItem) : FileTree :=
  if (tree.items.lookup place).isSome then
    ⟨tree.items.map fun entry => if entry.1 = place then (place, item) else entry⟩
  else ⟨tree.items ++ [(place, item)]⟩

/-- The longest name in bytes. -/
def longestName : Nat :=
  255

/-- The place that a path leads to; whatever is above the place is a directory. -/
def placeOf (tree : FileTree) (given : Path) : Except FileError Path :=
  let rec go (place : Path) : List String → Except FileError Path
    | [] => .ok place
    | name :: rest =>
        match tree.item? place with
        | none => .error (.notFound given)
        | some .directory =>
            if longestName < name.utf8ByteSize then .error (.nameTooLong given)
            else if name = ".." then go place.parent rest
            else go (place.child name) rest
        | some _ => .error (.notADirectory given)
  match Text.unwritableHalves? given.text with
  | some (place, count) => .error (.halves given place count)
  | none =>
      if given.parts.any (·.contains (Char.ofNat 0)) then .error .nullCharacter
      else go ⟨given.root, []⟩ given.parts

def isDirectory (tree : FileTree) (path : Path) : Bool :=
  match tree.placeOf path with
  | .ok place =>
      match tree.item? place with
      | some .directory => true
      | _ => false
  | .error _ => false

def read (tree : FileTree) (path : Path) : Except FileError String := do
  match tree.item? (← tree.placeOf path) with
  | none => throw (.notFound path)
  | some .directory => throw (.aDirectory path)
  | some (.document content) => return content
  | some (.drawing _) => return ""

/-- Puts a document or a drawing at a path. -/
def write (tree : FileTree) (path : Path) (item : FileItem) : Except FileError FileTree := do
  let place ← tree.placeOf path
  match tree.item? place with
  | some .directory => throw (.aDirectory path)
  | _ => return tree.put place item

def append (tree : FileTree) (path : Path) (content : String) : Except FileError FileTree := do
  tree.write path (.document ((← tree.read path) ++ content))

/-- Makes a directory in one that is there. -/
def makeDirectory (tree : FileTree) (path : Path) : Except FileError FileTree := do
  let place ← tree.placeOf path
  if (tree.item? place).isSome then throw (.alreadyThere path)
  return tree.put place .directory

/-- Makes a directory in one that is there, unless it is there already. -/
def keepDirectory (tree : FileTree) (path : Path) : Except FileError FileTree :=
  match tree.makeDirectory path with
  | .error error => if tree.isDirectory path then .ok tree else .error error
  | outcome => outcome

/-- Makes a directory, given by its names from the last one up, after those above it. -/
def ensureNames (tree : FileTree) (root : String) : (names : List String) →
    Except FileError FileTree
  | [] => .ok tree
  | name :: above =>
      let path : Path := ⟨root, (name :: above).reverse⟩
      match tree.makeDirectory path with
      | .error (.notFound _) => do (← tree.ensureNames root above).keepDirectory path
      | _ => tree.keepDirectory path

/-- Makes a directory and those above it, unless they are there. -/
def ensureDirectory (tree : FileTree) (path : Path) : Except FileError FileTree :=
  tree.ensureNames path.root path.parts.reverse

/-- The tree with documents at paths, and the directories that they need. -/
def ofDocuments (documents : List (String × String)) : FileTree :=
  documents.foldl (fun tree (name, content) =>
    let place := Path.ofText name
    (place.above.foldl (fun tree above => tree.put above .directory) tree).put place
      (.document content)) ⟨[]⟩

end FileTree

end BellmanGrid
