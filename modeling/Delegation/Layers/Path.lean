import Delegation.Exit
import Delegation.Layers.Table
import Delegation.Number.Reading
/-!
# Paths to values

A source may name a value inside of tables and lists by a path such as `a.b` or `a[0]`.  What is in
the way of a path gives way: a value that is no table becomes an empty table where a field is named,
and a value that is no list becomes an empty list where an item is counted.  A list grows up to the
item that is counted, but nothing can be put in front of its first item.
-/

namespace Delegation

/-- A step into a value. -/
inductive PathStep where
  /-- To the field of a table. -/
  | field (name : String)
  /-- To the item of a list; negative numbers count from the end. -/
  | item (index : Int)
deriving DecidableEq, Repr

/-- A path from a table to a value in it. -/
structure Path where
  /-- The field of the table. -/
  first : String
  /-- The steps from there on. -/
  steps : List PathStep
deriving DecidableEq, Repr

/-- What is wrong with the place of an item. -/
inductive Misplacement where
  /-- It would be in front of the first item of its list. -/
  | beforeStart
  /-- Its list would get too long. -/
  | tooFar
deriving DecidableEq, Repr

/-- The panic over an item without a place. -/
def Misplacement.message : Misplacement → String
  | beforeStart => "attempt to subtract with overflow"
  | tooFar => "capacity overflow"

namespace Path

/-- The characters of names in paths. -/
def isNameChar (c : Char) : Bool :=
  c.isAlphanum || c == ' ' || c == '_' || c == '-'

/-- The name at the start of a text. -/
def name? (cs : List Char) : Option (String × List Char) :=
  let name := cs.takeWhile isNameChar
  if name.isEmpty then none else some (String.ofList name, cs.dropWhile isNameChar)

/-- A space or a tab. -/
def isSpace (c : Char) : Bool :=
  c == ' ' || c == '\t'

/-- The index in square brackets, after the first of them, and what is left.  It may have spaces
around it and has to fit 64 bits. -/
def index? (cs : List Char) : Option (Int × List Char) :=
  let cs := cs.dropWhile isSpace
  let (negative, cs) :=
    match cs with
    | '-' :: rest => (true, rest)
    | _ => (false, cs)
  match natOfText? 10 (cs.takeWhile isDecimalDigit),
    (cs.dropWhile isDecimalDigit).dropWhile isSpace with
  | some n, ']' :: rest =>
    (fitsSigned (if negative then -(n : Int) else n)).map fun i => (i.toInt, rest)
  | _, _ => none

/-- The steps that a text writes.  Each of them takes at least two characters. -/
def stepsFor : Nat → List Char → Option (List PathStep)
  | _, [] => some []
  | 0, _ => none
  | fuel + 1, '.' :: rest => do
    let (name, rest) ← name? rest
    let steps ← stepsFor fuel rest
    pure (.field name :: steps)
  | fuel + 1, '[' :: rest => do
    let (index, rest) ← index? rest
    let steps ← stepsFor fuel rest
    pure (.item index :: steps)
  | _ + 1, _ => none

/-- The path that a text writes. -/
def parse? (text : String) : Option Path := do
  let (first, rest) ← name? text.toList
  let steps ← stepsFor rest.length rest
  pure ⟨first, steps⟩

/-- The path of a text: if it writes none, it is the name of a field. -/
def ofText (text : String) : Path :=
  (parse? text).getD ⟨text, []⟩

/-- The number of items that a list may grow to. -/
def maxItems : Nat := 100000000

/-- The position of an item in a list of the given length. -/
def position (index : Int) (length : Nat) : Except Misplacement Nat :=
  let position := if 0 ≤ index then index else length + index
  if position < 0 then .error .beforeStart
  else if position < maxItems then .ok position.toNat
  else .error .tooFar

/-- Change an item of a list, which grows if it is too short. -/
def changeItem (change : Raw → Except Misplacement Raw) (index : Int) (items : List Raw) :
    Except Misplacement (List Raw) := do
  let i ← position index items.length
  let long := items ++ List.replicate (i + 1 - items.length) .absent
  let item ← change ((long[i]?).getD .absent)
  pure (long.set i item)

/-- Change the value at the end of some steps. -/
def change (f : Raw → Raw) : List PathStep → Raw → Except Misplacement Raw
  | [], value => .ok (f value)
  | .field name :: steps, value => do
    let fields := value.fields
    let inner ← change f steps ((fields.get? (lowerText name)).getD .absent)
    pure (.table (fields.put (lowerText name) inner))
  | .item index :: steps, value =>
    (changeItem (change f steps) index value.items).map .list

/-- The steps to the table in which a value is laid over a field, or else to the value itself, and
what becomes of it there. -/
def target (steps : List PathStep) (value : Raw) : List PathStep × (Raw → Raw) :=
  match steps.getLast? with
  | some (.field name) => (steps.dropLast, fun parent => .table (Raw.lay name parent.fields value))
  | _ => (steps, fun _ => value)

/-- A table with a value laid over the end of a path. -/
def lay (p : Path) (under : Fields) (value : Raw) : Except Misplacement Fields :=
  if p.steps.isEmpty then .ok (Raw.lay p.first under value)
  else do
    let (steps, f) := target p.steps value
    let inner ← change f steps ((under.get? (lowerText p.first)).getD .absent)
    pure (under.put (lowerText p.first) inner)

end Path

/-- A table with a layer over it.  The layer names its values by paths.  An item without a place is
a panic. -/
def Fields.over {ε : Type} (under : Fields) (layer : List (String × Raw)) : Exit ε Fields :=
  match layer.foldlM (fun all entry => (Path.ofText entry.1).lay all entry.2) under with
  | .ok fields => .returned fields
  | .error m => .panicked m.message

end Delegation
