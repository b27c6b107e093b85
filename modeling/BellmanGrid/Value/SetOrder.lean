import BellmanGrid.Number.Double
import BellmanGrid.Value.Basic

/-!
The order in which a set of numbers shows its elements.

A set keeps its elements in slots, a power of two of them.  Every number has a key, the remainder of
its magnitude by a prime with the sign of the number, and its slot is the remainder of the key by
the number of slots.  If that slot is taken, the next nine are tried, and then another one.  Equal
numbers have equal keys, whatever their types.
-/

namespace BellmanGrid

namespace SetOrder

/-- The prime whose remainders are the keys.  A power of two of sixty-one more has the same
remainder. -/
def prime : Nat :=
  Nat.pow 2 61 - 1

/-- The key of an infinity without its sign. -/
def infiniteKey : Int :=
  314159

/-- A remainder with a sign.  Minus one is no key; minus two is used in its place. -/
def signedKey (negative : Bool) (remainder : Nat) : Int :=
  if negative then (if remainder = 1 then -2 else -remainder) else remainder

/-- The key of a number; other values have keys that differ from run to run. -/
def key? : Value → Option Int
  | .boolean flag => some (if flag then 1 else 0)
  | .integer value => some (signedKey (value < 0) (value.natAbs % prime))
  | .real number =>
      match Reading.ofFloat number with
      | .finite value =>
          some (signedKey value.negative
            (value.significand * Nat.pow 2 (value.exponent % 61).toNat % prime))
      | .infinite negative => some (if negative then -infiniteKey else infiniteKey)
      | .notANumber => none
  | _ => none

/-- The number of slots for so many elements: eight, and from five elements on the least power of
two that is more than twice as many. -/
def slotCount (count : Nat) : Nat :=
  if count < 5 then 8 else Nat.pow 2 ((2 * count).log2 + 1)

/-- The free slot that is found from a slot on.  The rest of the key decides which slot comes after
ten of them in a row; near the end of the slots it comes after one. -/
def freeSlot (slots : Array (Option Value)) : (bound slot rest : Nat) → Nat
  | 0, slot, _ => slot
  | bound + 1, slot, rest =>
      let tries := if slot + 9 < slots.size then 10 else 1
      match (List.range tries).find? fun ahead => (slots[slot + ahead]?).join.isNone with
      | some ahead => slot + ahead
      | none => freeSlot slots bound ((5 * slot + 1 + rest / 32) % slots.size) (rest / 32)

/-- Puts an element into a slot by its key, which is taken as a word of sixty-four bits. -/
def place (slots : Array (Option Value)) (element : Value × Int) : Array (Option Value) :=
  let word := (element.2 % Int.pow 2 64).toNat
  slots.setIfInBounds (freeSlot slots (slots.size + 16) (word % slots.size) word) (some element.1)

/-- Distinct elements in the order of their slots; elements that are not all numbers keep the order
in which they came. -/
def arrange (elements : List Value) : List Value :=
  match elements.mapM key? with
  | none => elements
  | some keys =>
      let slots := Array.replicate (slotCount elements.length) none
      ((elements.zip keys).foldl place slots).toList.filterMap id

end SetOrder

end BellmanGrid
