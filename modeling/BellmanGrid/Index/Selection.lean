import BellmanGrid.Index.Selector

/-!
The cells of an array that selectors select.

A selection has a shape and, in row-major order, the coordinates of its cells.  Selectors that stand
side by side are joined by pairing every cell of one with every cell of the next.  Arrays of
positions are different: they are repeated to a common shape and matched entry by entry, and
integers between them take part in that.
-/

namespace BellmanGrid

/-- Cells of an array in a rectangular arrangement. -/
structure Selection where
  shape : List Nat
  cells : List (List Nat)
deriving Repr, DecidableEq

namespace Selection

/-- The selection that selects nothing along no axis. -/
def unit : Selection :=
  ⟨[], [[]]⟩

/-- Every cell of one selection with every cell of the other. -/
def product (first second : Selection) : Selection where
  shape := first.shape ++ second.shape
  cells := first.cells.flatMap fun cell => second.cells.map (cell ++ ·)

/-- The cell of a selection that has no axes. -/
def cell? (selection : Selection) : Option (List Nat) :=
  match selection.shape, selection.cells with
  | [], [cell] => some cell
  | _, _ => none

/-- Two selections repeated to a common shape and matched cell by cell. -/
def matched (first second : Selection) : Except SelectionError Selection :=
  let firstSource := first.shape.reverse
  let secondSource := second.shape.reverse
  match Broadcast.join? firstSource secondSource with
  | none => .error (.shapes [first.shape, second.shape])
  | some target =>
      let firstCells := first.cells.toArray
      let secondCells := second.cells.toArray
      let cellAt (cells : Array (List Nat)) (source : List Nat) (position : Nat) : List Nat :=
        (cells[Broadcast.sourcePosition source target position]?).getD []
      .ok ⟨target.reverse, (List.range (extent target)).map fun position =>
        cellAt firstCells firstSource position ++ cellAt secondCells secondSource position⟩

end Selection

namespace Selector

/-- How many axes a selector is about. -/
def axesUsed : Selector → Nat
  | position _ => 1
  | slice _ _ _ => 1
  | newAxis => 0
  | positions _ _ => 1
  | mask shape _ => shape.length

def isArray : Selector → Bool
  | positions _ _ => true
  | mask _ _ => true
  | _ => false

/-- The first axis, counted from `axis` on, whose size is not that of a mask. -/
def maskFault? (axis : Nat) : (sizes given : List Nat) → Option SelectionError
  | size :: sizes, wanted :: given =>
      if size = wanted then maskFault? (axis + 1) sizes given
      else some (.maskSize axis size wanted)
  | _, _ => none

/-- Accepts selectors for the axes from `axis` on if every mask among them fits. -/
def checkMasks (axis : Nat) (sizes : List Nat) : List Selector → Except SelectionError Unit
  | [] => .ok ()
  | selector :: rest => do
      if let mask shape _ := selector then
        if let some fault := maskFault? axis sizes shape then throw fault
      checkMasks (axis + selector.axesUsed) (sizes.drop selector.axesUsed) rest

/-- The shape of an array of positions, or of the positions at which a mask is true. -/
def arrayShape? : Selector → Option (List Nat)
  | positions shape _ => some shape
  | mask _ flags => some [flags.countP id]
  | _ => none

/-- Accepts selectors whose arrays fit a common shape.  This is settled before any position is
looked at. -/
def checkShapes (selectors : List Selector) : Except SelectionError Unit :=
  let shapes := selectors.filterMap arrayShape?
  let join (joined : List Nat) (shape : List Nat) := Broadcast.join? joined shape.reverse
  if (shapes.foldlM join []).isNone then .error (.shapes shapes) else .ok ()

/-- All coordinates of a shape in row-major order. -/
def coordinates : List Nat → List (List Nat)
  | [] => [[]]
  | size :: rest => (List.range size).flatMap fun index => (coordinates rest).map (index :: ·)

/-- What a selector selects of the axes from `axis` on, which have the given sizes. -/
def selection (axis : Nat) (sizes : List Nat) (selector : Selector) :
    Except SelectionError Selection := do
  let size := sizes.headD 0
  let positionOf (index : Int) : Except SelectionError (List Nat) := do
    return [(← (BellmanGrid.position axis size index).mapError SelectionError.outOfBounds).val]
  match selector with
  | position index => return ⟨[], [← positionOf index]⟩
  | slice start stop step =>
      match (← Slice.ofValues start stop step).positions? size with
      | some selected => return ⟨[selected.length], selected.map fun index => [index.val]⟩
      | none => throw .zeroStep
  | newAxis => return ⟨[1], [[]]⟩
  | positions shape indices => return ⟨shape, ← indices.mapM positionOf⟩
  | mask shape flags =>
      let cells := ((coordinates shape).zip flags).filterMap fun (cell, flag) =>
        if flag then some cell else none
      return ⟨[cells.length], cells⟩

/-- What selectors side by side select.  `group` has the arrays and integers directly before, when
there is an array among the selectors. -/
def selectFrom (hasArray : Bool) (axis : Nat) (sizes : List Nat) (group : Option Selection) :
    List Selector → Except SelectionError Selection
  | [] => .ok (group.getD .unit)
  | selector :: rest => do
      let selected ← selector.selection axis sizes
      let next (group : Option Selection) : Except SelectionError Selection :=
        selectFrom hasArray (axis + selector.axesUsed) (sizes.drop selector.axesUsed) group rest
      let isMatched := hasArray && (selector.isArray || selector matches position _)
      if isMatched then
        match group with
        | some before => next (some (← before.matched selected))
        | none => next (some selected)
      else return (group.getD .unit).product (selected.product (← next none))

end Selector

/-- The cells that selectors select of an array.  Axes that no selector is about are selected
whole. -/
def select (sizes : List Nat) (selectors : List Selector) : Except SelectionError Selection := do
  let used := selectors.foldl (fun axes selector => axes + selector.axesUsed) 0
  if sizes.length < used then throw (.tooManyAxes sizes.length used)
  Selector.checkMasks 0 sizes selectors
  Selector.checkShapes selectors
  Selector.selectFrom (selectors.any Selector.isArray) 0 sizes none
    (selectors ++ List.replicate (sizes.length - used) .all)

def selectCell (sizes : List Nat) (selectors : List Selector) :
    Except SelectionError (List Nat) := do
  match (← select sizes selectors).cell? with
  | some cell => return cell
  | none => throw .manyCells

end BellmanGrid
