import BellmanGrid.Value.Arrangement

/-!
Arithmetic on values.

Numbers of different kinds meet in the wider kind: an integer becomes the nearest double, a double
becomes a complex number.  Two integers stay exact.  Everything else is refused, and the refusal
tells a product with a text or a list, which would repeat it, from the rest.
-/

namespace BellmanGrid

inductive ArithmeticOperation where
  | add
  | subtract
  | multiply
deriving Repr, DecidableEq

def ArithmeticOperation.sign : ArithmeticOperation → String
  | add => "+"
  | subtract => "-"
  | multiply => "*"

def ArithmeticOperation.name : ArithmeticOperation → String
  | add => "add"
  | subtract => "subtract"
  | multiply => "multiply"

/-- A number of one of three kinds. -/
inductive Quantity where
  | integer (value : Int)
  | real (number : Float)
  | complex (realPart imaginaryPart : Float)

/-- Where the number of an operation comes from.  A stored one was taken out of an array, and its
type has a name of its own. -/
inductive NumberSource where
  | given
  | stored
deriving Repr, DecidableEq

/-- Why an operation on values has no result. -/
inductive OperandError where
  | unsupported (operation : ArithmeticOperation) (left right : String)
  /-- a text or a list repeated a number of times that is no integer -/
  | repetition (countType : String)
  /-- a text or a list continued by what is none -/
  | concatenation (sequence other : String)
  /-- an array of numbers and an array of texts -/
  | noLoop (operation : ArithmeticOperation) (left right : String)
  /-- arrays that fit no common shape -/
  | shapes (left right : List Nat)
  | conversion (cause : ConversionError)
  | array (cause : ArrayError)
deriving Repr, DecidableEq

instance : Reportable OperandError where
  kind
    | .noLoop _ _ _ => .elementType
    | .shapes _ _ => .value
    | .conversion cause => kind cause
    | .array cause => kind cause
    | _ => .type
  message
    | .unsupported operation left right =>
        s!"unsupported operand type(s) for {operation.sign}: '{left}' and '{right}'"
    | .repetition countType => s!"can't multiply sequence by non-int of type '{countType}'"
    | .concatenation sequence other =>
        s!"can only concatenate {sequence} (not \"{other}\") to {sequence}"
    | .noLoop operation left right =>
        s!"ufunc '{operation.name}' did not contain a loop with signature matching types " ++
          s!"(dtype('{left}'), dtype('{right}')) -> None"
    | .shapes left right =>
        "operands could not be broadcast together with shapes " ++
          s!"{denseShapeText left} {denseShapeText right} "
    | .conversion cause => message cause
    | .array cause => message cause

namespace Quantity

def toValue : Quantity → Value
  | integer value => .integer value
  | real number => .real number
  | complex realPart imaginaryPart => .complex realPart imaginaryPart

/-- The real part and the imaginary part. -/
def parts : Quantity → Except ConversionError (Float × Float)
  | integer value => do return (← realOfInteger value, 0.0)
  | real number => .ok (number, 0.0)
  | complex realPart imaginaryPart => .ok (realPart, imaginaryPart)

def realPart (quantity : Quantity) : Except ConversionError Float := do
  return (← quantity.parts).1

def negate : Quantity → Quantity
  | integer value => integer (-value)
  | real number => real (-number)
  | complex realPart imaginaryPart => complex (-realPart) (-imaginaryPart)

def onIntegers (operation : ArithmeticOperation) (left right : Int) : Int :=
  match operation with
  | .add => left + right
  | .subtract => left - right
  | .multiply => left * right

def onReals (operation : ArithmeticOperation) (left right : Float) : Float :=
  match operation with
  | .add => left + right
  | .subtract => left - right
  | .multiply => left * right

def onComplexes (operation : ArithmeticOperation) (left right : Float × Float) : Float × Float :=
  match operation with
  | .add => (left.1 + right.1, left.2 + right.2)
  | .subtract => (left.1 - right.1, left.2 - right.2)
  | .multiply => (left.1 * right.1 - left.2 * right.2, left.1 * right.2 + left.2 * right.1)

def combine (operation : ArithmeticOperation) :
    Quantity → Quantity → Except ConversionError Quantity
  | integer left, integer right => .ok (integer (onIntegers operation left right))
  | complex realPart imaginaryPart, right => do
      let (realPart, imaginaryPart) :=
        onComplexes operation (realPart, imaginaryPart) (← right.parts)
      return complex realPart imaginaryPart
  | left, complex realPart imaginaryPart => do
      let (realPart, imaginaryPart) :=
        onComplexes operation (← left.parts) (realPart, imaginaryPart)
      return complex realPart imaginaryPart
  | left, right => do
      return real (onReals operation (← left.realPart) (← right.realPart))

end Quantity

namespace Value

/-- The number that a value is; a truth value counts as one or zero. -/
def quantity? : Value → Option Quantity
  | boolean flag => some (.integer (if flag then 1 else 0))
  | integer value => some (.integer value)
  | real number => some (.real number)
  | complex realPart imaginaryPart => some (.complex realPart imaginaryPart)
  | _ => none

def isSequence : Value → Bool
  | text _ => true
  | list _ => true
  | tuple _ => true
  | bytes _ => true
  | _ => false

def sourceTypeName (source : NumberSource) (value : Value) : String :=
  match source, value with
  | .stored, real _ => "numpy.float64"
  | .stored, complex _ _ => "numpy.complex128"
  | _, _ => value.typeName

/-- Why an operation is refused on two values that are not both numbers. -/
def refusal (operation : ArithmeticOperation) (source : NumberSource) (left right : Value) :
    OperandError :=
  let unsupported := .unsupported operation left.typeName right.typeName
  match operation with
  | .multiply =>
      if left.isSequence then .repetition (right.sourceTypeName source)
      else if right.isSequence then .repetition (left.sourceTypeName source)
      else unsupported
  | .add =>
      if left.isSequence then .concatenation left.typeName (right.sourceTypeName source)
      else unsupported
  | .subtract => unsupported

/-- An operation on two values, one of which is a real or complex number. -/
def operate (operation : ArithmeticOperation) (source : NumberSource) (left right : Value) :
    Except OperandError Quantity :=
  match left.quantity?, right.quantity? with
  | some leftNumber, some rightNumber =>
      (leftNumber.combine operation rightNumber).mapError OperandError.conversion
  | _, _ => .error (refusal operation source left right)

/-- What the entries of a list are stored as in an array. -/
inductive EntryStorage where
  | numbers
  /-- texts, and numbers turned into texts, of at most `width` characters -/
  | texts (width : Nat)
  | objects
deriving Repr, DecidableEq

/-- The number of characters that an entry takes in an array of texts. -/
def textWidth? : Value → Option Nat
  | text content => some (max 1 content.length)
  | boolean _ => some 5
  | integer _ => some 21
  | real _ => some 32
  | complex _ _ => some 64
  | _ => none

def entryStorage (entries : List Value) : EntryStorage :=
  let isText : Value → Bool
    | text _ => true
    | _ => false
  if entries.all mayBeComplex then .numbers
  else if entries.all (fun entry => isText entry || mayBeComplex entry) then
    .texts ((entries.filterMap textWidth?).foldl max 1)
  else .objects

/-- Is an operation on an array of real numbers and a value possible?  The array has the given shape
and stands left or right of the sign. -/
def checkArrayOperation (operation : ArithmeticOperation) (arrayFirst : Bool) (shape : List Nat)
    (value : Value) : Except OperandError Unit := do
  let number : Value := .real 1.0
  let ordered {β : Type} (array other : β) : β × β :=
    if arrayFirst then (array, other) else (other, array)
  let valueShape ← (value.shape axisLimit).mapError OperandError.array
  let entries := value.entries
  match entryStorage entries with
  | .texts width =>
      let (left, right) := ordered "float64" s!"<U{width}"
      throw (.noLoop operation left right)
  | storage =>
      if (Broadcast.join? shape.reverse valueShape.reverse).isNone then
        let (left, right) := ordered shape valueShape
        throw (.shapes left right)
      if storage = .objects && 0 < extent shape then
        for entry in entries do
          let (left, right) := ordered number entry
          discard (operate operation .given left right)

end Value

end BellmanGrid
