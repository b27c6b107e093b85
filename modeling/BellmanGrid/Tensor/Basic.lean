/-!
Rectangular arrays of any number of axes, and broadcasting.

The entries stand in row-major order.  An array fits a shape when, read from the last axis on, each
of its axes has the extent of the shape or extent one; the missing axes come first.  Repeating the
axes of extent one then gives an array of that shape.
-/

namespace BellmanGrid

/-- How many entries a shape has. -/
def extent (shape : List Nat) : Nat :=
  shape.foldr (· * ·) 1

/-- A shape in parentheses; a single extent is followed by a comma. -/
def shapeText : List Nat → String
  | [single] => s!"({single},)"
  | shape => "(" ++ ", ".intercalate (shape.map Nat.repr) ++ ")"

/-- A shape in parentheses without blanks. -/
def denseShapeText : List Nat → String
  | [single] => s!"({single},)"
  | shape => "(" ++ ",".intercalate (shape.map Nat.repr) ++ ")"

/-- Entries in a rectangular arrangement. -/
structure Tensor (α : Type) where
  shape : List Nat
  data : Array α
  size_eq : data.size = extent shape

namespace Broadcast

/-- Does an array fit a shape?  Both are given with the last axis first. -/
def fits : (source target : List Nat) → Bool
  | [], _ => true
  | _ :: _, [] => false
  | size :: source, wanted :: target => (size = wanted || size = 1) && fits source target

/-- The position of the entry that is repeated to `position` of the target; last axis first. -/
def sourcePosition : (source target : List Nat) → (position : Nat) → Nat
  | size :: source, wanted :: target, position =>
      (if size = 1 then 0 else position % wanted) +
        size * sourcePosition source target (position / wanted)
  | _, _, _ => 0

/-- The smallest shape that both arrays fit, last axis first. -/
def join? : List Nat → List Nat → Option (List Nat)
  | [], second => some second
  | first, [] => some first
  | size :: first, other :: second =>
      if size = other ∨ other = 1 then (join? first second).map (size :: ·)
      else if size = 1 then (join? first second).map (other :: ·)
      else none

theorem fits_refl (shape : List Nat) : fits shape shape = true := by
  induction shape with
  | nil => rfl
  | cons size rest ih => simp [fits, ih]

theorem fits_of_join?_left {first second joined : List Nat}
    (hjoin : join? first second = some joined) :
    fits first joined = true := by
  induction first generalizing second joined with
  | nil => cases joined <;> rfl
  | cons size first ih =>
      cases second with
      | nil =>
          simp only [join?, Option.some.injEq] at hjoin
          exact hjoin ▸ fits_refl _
      | cons other second =>
          simp only [join?] at hjoin
          split at hjoin
          · obtain ⟨rest, hrest, rfl⟩ := Option.map_eq_some_iff.mp hjoin
            simp [fits, ih hrest]
          · split at hjoin
            · obtain ⟨rest, hrest, rfl⟩ := Option.map_eq_some_iff.mp hjoin
              simp_all [fits]
              exact ih hrest
            · simp at hjoin

theorem fits_of_join?_right {first second joined : List Nat}
    (hjoin : join? first second = some joined) : fits second joined = true := by
  induction first generalizing second joined with
  | nil =>
      simp only [join?, Option.some.injEq] at hjoin
      exact hjoin ▸ fits_refl _
  | cons size first ih =>
      cases second with
      | nil => cases joined <;> rfl
      | cons other second =>
          simp only [join?] at hjoin
          split at hjoin
          · obtain ⟨rest, hrest, rfl⟩ := Option.map_eq_some_iff.mp hjoin
            rename_i hsize
            simp only [fits, ih hrest, Bool.and_true, Bool.or_eq_true, decide_eq_true_eq]
            omega
          · split at hjoin
            · obtain ⟨rest, hrest, rfl⟩ := Option.map_eq_some_iff.mp hjoin
              simp [fits, ih hrest]
            · simp at hjoin

theorem sourcePosition_lt {source target : List Nat} (hfits : fits source target = true)
    {position : Nat} (hposition : position < extent target) :
    sourcePosition source target position < extent source := by
  induction source generalizing target position with
  | nil => simp [sourcePosition, extent]
  | cons size source ih =>
      cases target with
      | nil => simp [fits] at hfits
      | cons wanted target =>
          simp only [fits, Bool.and_eq_true, Bool.or_eq_true, decide_eq_true_eq] at hfits
          obtain ⟨hsize, hrest⟩ := hfits
          have hrange : position < wanted * extent target := by simpa [extent] using hposition
          have hwanted : 0 < wanted := Nat.pos_of_mul_pos_right (Nat.zero_lt_of_lt hrange)
          have hquotient : position / wanted < extent target :=
            Nat.div_lt_of_lt_mul hrange
          have hinner := ih hrest hquotient
          have hremainder : (if size = 1 then 0 else position % wanted) < size := by
            split
            · omega
            · have hequal : size = wanted := by omega
              rw [hequal]
              exact Nat.mod_lt _ hwanted
          calc (if size = 1 then 0 else position % wanted) +
                size * sourcePosition source target (position / wanted)
              < size + size * sourcePosition source target (position / wanted) := by omega
            _ = size * (sourcePosition source target (position / wanted) + 1) := by
                rw [Nat.mul_add, Nat.mul_one, Nat.add_comm]
            _ ≤ size * extent source := Nat.mul_le_mul_left _ hinner

theorem extent_append (first second : List Nat) :
    extent (first ++ second) = extent first * extent second := by
  induction first with
  | nil => simp [extent]
  | cons size first ih =>
      have hstep : extent (size :: (first ++ second)) = size * extent (first ++ second) := rfl
      have hhead : extent (size :: first) = size * extent first := rfl
      rw [List.cons_append, hstep, ih, hhead, Nat.mul_assoc]

theorem extent_reverse (shape : List Nat) : extent shape.reverse = extent shape := by
  induction shape with
  | nil => rfl
  | cons size shape ih =>
      have hhead : extent (size :: shape) = size * extent shape := rfl
      rw [List.reverse_cons, extent_append, ih, hhead, Nat.mul_comm]
      simp [extent]

end Broadcast

namespace Tensor

variable {α β γ : Type}

/-- One entry without axes. -/
def single (entry : α) : Tensor α :=
  ⟨[], #[entry], rfl⟩

def row (entries : Array α) : Tensor α :=
  ⟨[entries.size], entries, by simp [extent]⟩

def column (entries : Array α) : Tensor α :=
  ⟨[entries.size, 1], entries, by simp [extent]⟩

/-- A row of entries with an axis of extent one before it. -/
def flatRow (entries : Array α) : Tensor α :=
  ⟨[1, entries.size], entries, by simp [extent]⟩

/-- The same arrangement of other entries. -/
@[specialize]
def map (change : α → β) (tensor : Tensor α) : Tensor β :=
  ⟨tensor.shape, tensor.data.map change, by simp [tensor.size_eq]⟩

/-- The entry that stands at `position` once the array is repeated to a shape that it fits.
`source` and `target` are the two shapes with the last axis first. -/
@[inline]
def repeated (tensor : Tensor α) (source target : List Nat)
    (hsource : source = tensor.shape.reverse) (hfits : Broadcast.fits source target = true)
    (position : Nat)
    (hposition : position < extent target) : α :=
  have hbound : Broadcast.sourcePosition source target position < tensor.data.size := by
    rw [tensor.size_eq, ← Broadcast.extent_reverse tensor.shape, ← hsource]
    exact Broadcast.sourcePosition_lt hfits hposition
  tensor.data[Broadcast.sourcePosition source target position]

/-- The array repeated to a shape that it fits. -/
def expand? (tensor : Tensor α) (shape : List Nat) : Option (Tensor α) :=
  if tensor.shape = shape then some tensor
  else
    let source := tensor.shape.reverse
    let target := shape.reverse
    if hfits : Broadcast.fits source target = true then
      some ⟨shape, Array.ofFn (n := extent target) fun position =>
        tensor.repeated source target rfl hfits position position.isLt,
        by simp [target, Broadcast.extent_reverse]⟩
    else none

def fits (tensor : Tensor α) (shape : List Nat) : Bool :=
  Broadcast.fits tensor.shape.reverse shape.reverse

/-- The entry at a position of the array repeated to a shape, if there is one. -/
def entryAt? (tensor : Tensor α) (shape : List Nat) (position : Nat) : Option α :=
  tensor.data[Broadcast.sourcePosition tensor.shape.reverse shape.reverse position]?

/-- Two arrays combined entry by entry, each repeated to the smallest shape that both fit. -/
@[specialize]
def zipWith? (combine : α → β → γ) (first : Tensor α) (second : Tensor β) : Option (Tensor γ) :=
  let firstSource := first.shape.reverse
  let secondSource := second.shape.reverse
  match hjoin : Broadcast.join? firstSource secondSource with
  | none => none
  | some target =>
      have hfirst := Broadcast.fits_of_join?_left hjoin
      have hsecond := Broadcast.fits_of_join?_right hjoin
      some ⟨target.reverse, Array.ofFn (n := extent target) fun position =>
        combine
          (first.repeated firstSource target rfl hfirst position position.isLt)
          (second.repeated secondSource target rfl hsecond position position.isLt),
        by simp [Broadcast.extent_reverse]⟩

end Tensor

end BellmanGrid
