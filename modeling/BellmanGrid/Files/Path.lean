/-!
Paths: names with slashes between them, some of them from the root.
-/

namespace BellmanGrid

/-- A path.  The root is empty for a path from the current directory, and one or two slashes
otherwise. -/
structure Path where
  root : String
  parts : List String
deriving Repr, DecidableEq

namespace Path

/-- The path that a text writes.  Empty parts and single dots say nothing. -/
def ofText (text : String) : Path where
  root :=
    if text.startsWith "//" && !text.startsWith "///" then "//"
    else if text.startsWith "/" then "/"
    else ""
  parts := (text.splitOn "/").filter fun part => part ≠ "" ∧ part ≠ "."

def text (path : Path) : String :=
  if path.root.isEmpty && path.parts.isEmpty then "."
  else path.root ++ "/".intercalate path.parts

def child (path : Path) (name : String) : Path :=
  { path with parts := path.parts ++ [name] }

/-- The path one name back; a root has no other parent than itself. -/
def parent (path : Path) : Path :=
  { path with parts := path.parts.dropLast }

/-- The paths above a path, from the root down. -/
def above (path : Path) : List Path :=
  (List.range path.parts.length).map fun count => { path with parts := path.parts.take count }

end Path

end BellmanGrid
