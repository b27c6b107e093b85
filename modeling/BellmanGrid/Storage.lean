import BellmanGrid.Decimal.Format
import BellmanGrid.Index
import BellmanGrid.Number.Basic
import BellmanGrid.Tensor.Basic

/-!
Limits on the size of stored arrays.  Sizes are refused before anything is stored: counts beyond
what a position can be, byte counts beyond what a size can be, and byte counts beyond the memory
that is granted.
-/

namespace BellmanGrid.Storage

/-- What an array stores in each of its places: a number in eight bytes, or a truth value in one. -/
inductive Entry where
  | number
  | flag
deriving Repr, DecidableEq

def Entry.bytes : Entry → Nat
  | number => 8
  | flag => 1

def Entry.name : Entry → String
  | number => "float64"
  | flag => "bool"

inductive StorageError where
  /-- more entries in a range than can be counted -/
  | uncountable
  /-- one entry more in a range than can be counted: the range is empty and has no last entry -/
  | noLastEntry
  /-- an axis longer than can be counted -/
  | longAxis
  /-- more entries in a repeated array than can be counted -/
  | endless
  /-- more bytes than can be counted -/
  | tooBig
  /-- more bytes than are granted -/
  | outOfMemory (entry : Entry) (shape : List Nat)
deriving Repr, DecidableEq

/-- The names of the units of memory, each 1024 times the one before. -/
def unitNames : List String :=
  ["bytes", "KiB", "MiB", "GiB", "TiB", "PiB", "EiB"]

/-- An amount of memory in a unit with three digits, or with all digits of its integer part. -/
def amountText (amount : Float) : String :=
  let places := if amount < 9.995 then 2 else if amount < 99.95 then 1 else 0
  let text := Decimal.fixed places amount
  if places = 0 then text ++ "." else text

/-- A number of bytes in the largest unit that it reaches. -/
def sizeText (bytes : Nat) : String :=
  let level := max bytes.log2 1 / 10
  let amount := nearest false bytes (Nat.pow 1024 level)
  let (level, amount) :=
    if (FiniteDouble.ofFloat amount).round = 1024 then (level + 1, amount / 1024)
    else (level, amount)
  if level = 0 then s!"{bytes} bytes"
  else
    let unit := (unitNames[level]?).getD "EiB"
    let shown :=
      if 6 < level then amount * nearest false (Nat.pow 1024 (level - 6)) 1 else amount
    amountText shown ++ " " ++ unit

instance : Reportable StorageError where
  kind
    | .outOfMemory _ _ => .memory
    | .noLastEntry => .index
    | _ => .value
  message
    | .uncountable => "Maximum allowed size exceeded"
    | .noLastEntry => message (IndexError.mk (-1) 0 0)
    | .longAxis => "Maximum allowed dimension exceeded"
    | .endless => "iterator is too large"
    | .tooBig =>
        "array is too big; \x60arr.size * arr.dtype.itemsize\x60 is larger than the maximum " ++
          "possible size."
    | .outOfMemory entry shape =>
        s!"Unable to allocate {sizeText (entry.bytes * extent shape)} for an array with shape " ++
          s!"{shapeText shape} and data type {entry.name}"

/-- The number of bytes that is granted to one array. -/
def granted : Nat :=
  Nat.pow 2 40

/-- Accepts the shape of an array of doubles that can be stored. -/
def check (shape : List Nat) : Except StorageError Unit :=
  if shape.any (Nat.pow 2 63 ≤ ·) then .error .longAxis
  else if Nat.pow 2 63 ≤ 8 * extent (shape.filter (0 < ·)) then .error .tooBig
  else if granted ≤ 8 * extent shape then .error (.outOfMemory .number shape)
  else .ok ()

theorem check_eq_ok_iff {shape : List Nat} :
    check shape = .ok () ↔ (∀ size ∈ shape, size < Nat.pow 2 63) ∧
      8 * extent (shape.filter (0 < ·)) < Nat.pow 2 63 ∧ 8 * extent shape < granted := by
  have haxes : shape.any (Nat.pow 2 63 ≤ ·) = false ↔ ∀ size ∈ shape, size < Nat.pow 2 63 := by
    simp only [List.any_eq_false, decide_eq_true_eq, Nat.not_le]
  rw [← haxes, check]
  split
  · next hlong => simp only [hlong, Bool.true_eq_false, false_and, reduceCtorEq]
  · next hshort =>
      rw [Bool.not_eq_true] at hshort
      split
      · next hbig => simp only [hshort, Nat.not_lt.mpr hbig, false_and, and_false, reduceCtorEq]
      · next hsmall =>
          split
          · next hbytes => simp only [Nat.not_lt.mpr hbytes, and_false, reduceCtorEq]
          · next hbytes =>
              simp only [hshort, Nat.not_le.mp hsmall, Nat.not_le.mp hbytes, and_self]

/-- Accepts the shape that an array of doubles can be repeated to.  Repeating takes no memory of its
own, but telling which of the entries are finite does. -/
def checkRepeated (shape : List Nat) : Except StorageError Unit :=
  if shape.any (Nat.pow 2 63 ≤ ·) then .error .longAxis
  else if Nat.pow 2 63 ≤ extent shape then .error .endless
  else if Nat.pow 2 63 ≤ 8 * extent (shape.filter (0 < ·)) then .error .tooBig
  else if granted ≤ extent shape then .error (.outOfMemory .flag shape)
  else .ok ()

/-- Accepts a number of points in a range.  The number is rounded to a double first. -/
def checkRange (count : Nat) : Except StorageError Unit :=
  let rounded := (FiniteDouble.ofFloat (floatOfInt count)).truncate.toNat
  if Nat.pow 2 63 < rounded then .error .uncountable
  else if rounded = Nat.pow 2 63 then .error .noLastEntry
  else check [rounded]

end BellmanGrid.Storage
