import Delegation.Layers.Raw
/-!
# Tables and layers

Layers are laid over each other field by field: a table that is laid over a table adds its fields to
those that are there, and anything else takes the place of what is there.  Names of fields are kept
in lower case.
-/

namespace Delegation

/-- The fields of a table. -/
abbrev Fields := List (String × Raw)

namespace Fields

/-- The value of a field. -/
def get? (fields : Fields) (name : String) : Option Raw :=
  fields.lookup name

/-- Set a field to a value. -/
def put (fields : Fields) (name : String) (value : Raw) : Fields :=
  (name, value) :: fields.filter fun f => f.1 != name

/-- The table of fields of which a later one counts more than an earlier one of its name. -/
def ofList (fields : List (String × Raw)) : Fields :=
  fields.foldl (fun all f => put all f.1 f.2) []

end Fields

namespace Raw

/-- The fields of a table; anything else has none. -/
def fields : Raw → Fields
  | table fields => fields
  | _ => []

/-- The fields of a value that has to be a table. -/
def fields? : Raw → Option Fields
  | table fields => some fields
  | _ => none

/-- The items of a list; anything else has none. -/
def items : Raw → List Raw
  | list items => items
  | _ => []

mutual

/-- A table with a value laid over one of its fields. -/
def lay (name : String) (under : Fields) : Raw → Fields
  | table fields =>
    let target := (under.get? (lowerText name)).getD (table [])
    under.put (lowerText name) (layAll target fields)
  | value => under.put (lowerText name) value

/-- A value with fields laid over it; if there are any, it is a table. -/
def layAll (under : Raw) : List (String × Raw) → Raw
  | [] => under
  | (name, value) :: rest => layAll (table (lay name under.fields value)) rest

end

end Raw

end Delegation
