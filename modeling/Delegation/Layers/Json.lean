import Delegation.Json.Reader
import Delegation.Layers.Table
/-!
# Layers from JSON

Integers that do not fit 64 bits with a sign become floating-point numbers.  Of fields of one name,
the last one counts.
-/

namespace Delegation.Raw

/-- The value of a number. -/
def ofNumeral? (n : Json.Numeral) : Option Raw :=
  n.number?.map fun
    | .natural k =>
      match fitsSigned k.toNat with
      | some i => int i
      | none => float (.ofFloat k.toFloat)
    | .negative k => int k
    | .float x => float x

mutual

/-- The value of a document that may still be nested as deep as given. -/
def ofJson? (depth : Nat) : Json → Option Raw
  | .null => some absent
  | .bool b => some (bool b)
  | .number n => ofNumeral? n
  | .string s => s.map text
  | .array items =>
    match Json.enter depth with
    | some depth => (listOfJson? depth items).map list
    | none => none
  | .object fields =>
    match Json.enter depth with
    | some depth => (fieldsOfJson? depth fields).map fun all => table (Fields.ofList all)
    | none => none

/-- The values of several documents. -/
def listOfJson? (depth : Nat) : List Json → Option (List Raw)
  | [] => some []
  | item :: items =>
    match ofJson? depth item, listOfJson? depth items with
    | some v, some vs => some (v :: vs)
    | _, _ => none

/-- The values of several fields. -/
def fieldsOfJson? (depth : Nat) : List (Json.Content × Json) → Option (List (String × Raw))
  | [] => some []
  | (name, item) :: fields =>
    match name, ofJson? depth item, fieldsOfJson? depth fields with
    | some k, some v, some rest => some ((k, v) :: rest)
    | _, _, _ => none

end

/-- The value that a JSON text writes. -/
def parseJson? (text : String) : Option Raw :=
  (Json.parse text).bind (ofJson? Json.maxDepth)

end Delegation.Raw
