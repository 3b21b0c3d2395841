import Delegation.Json.Reader
import Delegation.Json.Writer
import Delegation.Value
/-!
# Values as JSON

A value is written as an object with one field that is named for its type, and nothing as the bare
string of that name.  A tensor is an object with the fields `shape` and `data`.

Reading is a little more liberal than writing.  The value of nothing may be spelled as an object
with a null field, the fields of a tensor may come in either order and among fields that are
ignored, and a tensor may be an array of its two parts.  A field that is repeated or missing is
refused.  Arrays and objects may not be nested more than `Json.maxDepth` deep.
-/

namespace Delegation

namespace Tensor

/-- A tensor as a document. -/
def toJson (t : Tensor) : Json :=
  .ofFields [
    ("shape", .array (t.shape.map fun n => .number (.ofNat n.toNat))),
    ("data", .array (t.data.map Json.ofSingle))]

/-- The extents of a tensor. -/
def shapeOfJson? (depth : Nat) : Json → Option (List UInt64)
  | .array items => do
    let _ ← Json.enter depth
    items.mapM Json.asWord?
  | _ => none

/-- The numbers of a tensor. -/
def dataOfJson? (depth : Nat) : Json → Option (List Single)
  | .array items => do
    let _ ← Json.enter depth
    items.mapM Json.asSingle?
  | _ => none

/-- The tensor of a document; its data need not match its shape. -/
def ofJson? (depth : Nat) : Json → Option Tensor
  | .array [shape, data] => do
    let depth ← Json.enter depth
    pure ⟨← shapeOfJson? depth shape, ← dataOfJson? depth data⟩
  | .object fields => do
    let depth ← Json.enter depth
    let _ ← fields.mapM Prod.fst
    match Json.lookupAll fields "shape", Json.lookupAll fields "data" with
    | [shape], [data] => pure ⟨← shapeOfJson? depth shape, ← dataOfJson? depth data⟩
    | _, _ => none
  | _ => none

end Tensor

namespace Value

/-- A value as a document. -/
def toJson : Value → Json
  | none => .ofString "None"
  | bool b => .ofFields [("Bool", .bool b)]
  | int n => .ofFields [("Int", .number (.ofInt n.toInt))]
  | double x => .ofFields [("Double", .ofDouble x)]
  | string s => .ofFields [("String", .ofString s)]
  | tensor t => .ofFields [("Tensor", t.toJson)]
  | list vs => .ofFields [("List", .array (listToJson vs))]
where
  /-- The documents of several values. -/
  listToJson : List Value → List Json
    | [] => []
    | v :: vs => toJson v :: listToJson vs

mutual

/-- The value of a document. -/
def ofJson? (depth : Nat) : Json → Option Value
  | .string s => if s = some "None" then some none else .none
  | .object [(name, body)] =>
    match Json.enter depth, name with
    | some depth, some name =>
      if name = "None" then
        match body with
        | .null => some none
        | _ => .none
      else if name = "Bool" then body.asBool?.map bool
      else if name = "Int" then body.asSigned?.map int
      else if name = "Double" then body.asDouble?.map double
      else if name = "String" then body.asString?.map string
      else if name = "Tensor" then (Tensor.ofJson? depth body).map tensor
      else if name = "List" then
        match body with
        | .array items =>
          match Json.enter depth with
          | some depth => (listOfJson? depth items).map list
          | .none => .none
        | _ => .none
      else .none
    | _, _ => .none
  | _ => .none

/-- The values of several documents. -/
def listOfJson? (depth : Nat) : List Json → Option (List Value)
  | [] => some []
  | item :: items =>
    match ofJson? depth item, listOfJson? depth items with
    | some v, some vs => some (v :: vs)
    | _, _ => .none

end

/-- The value written by a text. -/
def parse? (text : String) : Option Value :=
  (Json.parse text).bind (ofJson? Json.maxDepth)

/-- The compact text of a value. -/
def render (v : Value) : String :=
  v.toJson.compact

end Value

end Delegation
