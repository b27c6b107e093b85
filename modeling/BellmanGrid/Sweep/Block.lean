/-!
Blocks of rows: consecutive ranges of at most a given length that together cover all rows.
-/

namespace BellmanGrid

/-- The rows from `start` up to but not including `stop`. -/
structure Block where
  start : Nat
  stop : Nat
deriving Repr, DecidableEq

namespace Block

def size (block : Block) : Nat :=
  block.stop - block.start

def Contains (block : Block) (row : Nat) : Prop :=
  block.start ≤ row ∧ row < block.stop

/-- The blocks of `chunkSize` rows that cover `rows` rows; the last one may be shorter. -/
def cover (rows chunkSize : Nat) : List Block :=
  (List.range ((rows + chunkSize - 1) / chunkSize)).map fun index =>
    ⟨index * chunkSize, min (index * chunkSize + chunkSize) rows⟩

end Block

/-- The order in which the blocks of each time are worked on. -/
abbrev Schedule : Type :=
  (time : Nat) → List Block → List Block

/-- Blocks in increasing order at every time. -/
def Schedule.sequential : Schedule :=
  fun _ blocks => blocks

end BellmanGrid
