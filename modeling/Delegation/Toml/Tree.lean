import Delegation.Layers.Table
import Delegation.Toml.Moment
/-!
# Tables of TOML while they are read

A table may be written in several places, but only in some ways: a header starts a table once, and
dotted keys only add to tables that dotted keys have started in the same place.  Dates and times
become texts.  They may also be written as tables whose first key is a reserved one.
-/

namespace Delegation.Toml

/-- How a table came about. -/
inductive Origin where
  /-- As a part of the path of a header. -/
  | path
  /-- By its own header. -/
  | header
  /-- By a dotted key. -/
  | dotted
deriving DecidableEq, Repr

/-- A table while it is read. -/
inductive Tree where
  /-- A value. -/
  | value (v : Raw)
  /-- A date or a time. -/
  | moment (m : Moment)
  /-- A table. -/
  | table (origin : Origin) (fields : List (String × Tree))
  /-- Tables in a list, the latest first; each is given by its fields. -/
  | tables (latest : List (String × Tree)) (earlier : List (List (String × Tree)))

namespace Tree

/-- The fields of a table while it is read. -/
abbrev Branches := List (String × Tree)

/-- Set a field, in its place if it is there already. -/
def set (fields : Branches) (name : String) (t : Tree) : Branches :=
  match fields with
  | [] => [(name, t)]
  | f :: rest => if f.1 = name then (name, t) :: rest else f :: set rest name t

/-- Add a value under a dotted key.  A table that was started as a part of a path, and the latest
table of a list, may be passed, but nothing may be added to them directly. -/
def addValue (fields : Branches) (v : Tree) : List String → Option Branches
  | [] => none
  | [name] =>
    if (fields.lookup name).isSome then none else some (set fields name v)
  | name :: rest =>
    match fields.lookup name with
    | none => (addValue [] v rest).map fun inner => set fields name (.table .dotted inner)
    | some (.table .dotted inner) =>
      (addValue inner v rest).map fun inner => set fields name (.table .dotted inner)
    | some (.table .path inner) =>
      if rest.length = 1 then none
      else (addValue inner v rest).map fun inner => set fields name (.table .path inner)
    | some (.tables latest earlier) =>
      if rest.length = 1 then none
      else (addValue latest v rest).map fun inner => set fields name (.tables inner earlier)
    | some _ => none

/-- Change the table at a path of headers; tables on the way come into being. -/
def changeAt (change : Branches → Option Branches) (fields : Branches) :
    List String → Option Branches
  | [] => change fields
  | name :: rest =>
    match fields.lookup name with
    | none => (changeAt change [] rest).map fun inner => set fields name (.table .path inner)
    | some (.table origin inner) =>
      (changeAt change inner rest).map fun inner => set fields name (.table origin inner)
    | some (.tables latest earlier) =>
      (changeAt change latest rest).map fun inner => set fields name (.tables inner earlier)
    | some (.value _) | some (.moment _) => none

/-- Start a table by its header. -/
def startTable (name : String) (fields : Branches) : Option Branches :=
  match fields.lookup name with
  | none => some (set fields name (.table .header []))
  | some (.table .path inner) => some (set fields name (.table .header inner))
  | some _ => none

/-- Start another table of a list of tables. -/
def startItem (name : String) (fields : Branches) : Option Branches :=
  match fields.lookup name with
  | none => some (set fields name (.tables [] []))
  | some (.tables latest earlier) => some (set fields name (.tables [] (latest :: earlier)))
  | some _ => none

/-- Change the table that a header started last. -/
def changeLatest (change : Branches → Option Branches) (name : String) (fields : Branches) :
    Option Branches :=
  match fields.lookup name with
  | some (.table origin inner) =>
    (change inner).map fun inner => set fields name (.table origin inner)
  | some (.tables latest earlier) =>
    (change latest).map fun inner => set fields name (.tables inner earlier)
  | _ => none

/-- The first key of a table that stands for a date or a time. -/
def momentKey : String :=
  "$__toml_private_datetime"

/-- Whether a table stands for a date or a time. -/
def isMoment (fields : Branches) : Bool :=
  fields.head?.any fun f => f.1 == momentKey

/-- The date or time that a table stands for, as a text; its first field has to be a text. -/
def momentText? (fields : Branches) : Option Raw :=
  match fields with
  | (_, .value (.text s)) :: _ =>
    (Moment.read? .wholeDay s.toList).map fun m => .text m.text
  | _ => none

mutual

/-- The value of what was read. -/
def toRaw? : Tree → Option Raw
  | .value v => some v
  | .moment m => some (.text m.text)
  | .table _ fields =>
    if isMoment fields then momentText? fields else (fieldsToRaw? fields).map .table
  | .tables latest earlier =>
    let last :=
      if isMoment latest then momentText? latest else (fieldsToRaw? latest).map .table
    match tablesToRaw? earlier, last with
    | some items, some item => some (.list (items.reverse ++ [item]))
    | _, _ => none

/-- The values of fields. -/
def fieldsToRaw? : List (String × Tree) → Option Fields
  | [] => some []
  | (name, t) :: rest =>
    match toRaw? t, fieldsToRaw? rest with
    | some v, some fields => some ((name, v) :: fields)
    | _, _ => none

/-- The values of tables in a list. -/
def tablesToRaw? : List (List (String × Tree)) → Option (List Raw)
  | [] => some []
  | fields :: rest =>
    let first :=
      if isMoment fields then momentText? fields else (fieldsToRaw? fields).map .table
    match first, tablesToRaw? rest with
    | some v, some vs => some (v :: vs)
    | _, _ => none

end

end Tree

end Delegation.Toml
