import Delegation.Exit
import Delegation.Fault
import Delegation.Number.Binary
/-!
# Values on the host stack

A value is nothing, a truth value, an integer, a floating-point number, a text, a tensor or a list
of values.  A tensor that is made by `Tensor.make` has as many numbers as its shape says; tensors
that come from a text need not.  The number that a shape calls for is counted in a machine word, one
axis after the other; a count that the word does not hold is a panic, also when a later extent is
zero.
-/

namespace Delegation

/-- A dense tensor of 32-bit numbers. -/
structure Tensor where
  /-- The extent along each axis. -/
  shape : List UInt64
  /-- The numbers, the last axis running fastest. -/
  data : List Single
deriving DecidableEq, Repr

namespace Tensor

/-- A count multiplied by an extent, if a machine word holds the product. -/
def extend? (count : Nat) (extent : UInt64) : Option Nat :=
  if count * extent.toNat < UInt64.size then some (count * extent.toNat) else none

/-- The number of elements that a shape calls for, as far as it can be counted. -/
def volume? (shape : List UInt64) : Option Nat :=
  shape.foldlM extend? 1

/-- A shape as shown in messages. -/
def shapeText (shape : List UInt64) : String :=
  "[" ++ ", ".intercalate (shape.map fun n => toString n.toNat) ++ "]"

/-- A tensor whose data matches its shape. -/
def make (shape : List UInt64) (data : List Single) : Exit Fault Tensor :=
  match volume? shape with
  | none => .panicked "attempt to multiply with overflow"
  | some volume =>
    if volume = data.length then .returned ⟨shape, data⟩
    else
      .failed (.invalidTensor ("shape " ++ shapeText shape ++ " needs " ++ toString volume ++
        " elements, got " ++ toString data.length))

/-- The tensor without axes that holds one number. -/
def scalar (x : Single) : Tensor :=
  ⟨[], [x]⟩

/-- The number of elements. -/
def count (t : Tensor) : Nat :=
  t.data.length

/-- Apply a function to each element. -/
def mapData (f : Single → Single) (t : Tensor) : Exit Fault Tensor :=
  make t.shape (t.data.map f)

end Tensor

/-- A value on the host stack. -/
inductive Value where
  /-- Nothing. -/
  | none
  /-- A truth value. -/
  | bool (b : Bool)
  /-- An integer. -/
  | int (n : Int64)
  /-- A 64-bit floating-point number. -/
  | double (x : Double)
  /-- A text. -/
  | string (s : String)
  /-- A tensor. -/
  | tensor (t : Tensor)
  /-- A list of values. -/
  | list (vs : List Value)
deriving Repr

namespace Value

/-- The name of a value's type, as messages show it. -/
def typeName : Value → String
  | none => "None"
  | bool _ => "Bool"
  | int _ => "Int"
  | double _ => "Double"
  | string _ => "String"
  | tensor _ => "Tensor"
  | list _ => "List"

/-- The tensor of a tensor value. -/
def asTensor : Value → Except Fault Tensor
  | tensor t => .ok t
  | v => .error (.typeMismatch "Tensor" v.typeName)

/-- The integer of an integer value. -/
def asInt : Value → Except Fault Int64
  | int n => .ok n
  | v => .error (.typeMismatch "Int" v.typeName)

end Value

end Delegation
