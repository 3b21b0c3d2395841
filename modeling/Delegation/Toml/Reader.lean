import Delegation.Toml.Scalar
import Delegation.Toml.Text
import Delegation.Toml.Tree
/-!
# Reading TOML

A text is a sequence of lines: keys with their values, and headers of tables.  A reader takes the
characters that are left and gives back what it read with the characters that are left after it.
-/

namespace Delegation.Toml

/-! ## Keys -/

/-- Whether a character may stand in a key without quotes. -/
def isKeyChar (c : Char) : Bool :=
  c.isAlphanum || c == '_' || c == '-'

/-- A part of a key. -/
def keyPart? (cs : List Char) : Option (String × List Char) :=
  match cs with
  | c :: _ =>
    if c = '\x22' ∨ c = '\x27' then Text.short? cs
    else
      let part := cs.takeWhile isKeyChar
      if part.isEmpty then none else some (String.ofList part, cs.dropWhile isKeyChar)
  | [] => none

/-- A key with its dots, and what is left after it and white space.  Each round takes a part. -/
def keyFor : Nat → List Char → Option (List String × List Char)
  | 0, _ => none
  | fuel + 1, cs => do
    let (part, rest) ← keyPart? (skipSpaces cs)
    match skipSpaces rest with
    | '.' :: rest =>
      let (parts, rest) ← keyFor fuel rest
      pure (part :: parts, rest)
    | rest => pure ([part], rest)

/-- The number of arrays and tables that may be nested in each other, and of the parts that a key
may have, plus one. -/
def maxDepth : Nat := 80

/-- A key with its dots, and what is left after it and white space. -/
def key? (cs : List Char) : Option (List String × List Char) :=
  (keyFor (cs.length + 1) cs).bind fun r => if r.1.length < maxDepth then some r else none

/-! ## Values -/

/-- What is left after a comment, if there is one. -/
def skipComment : List Char → List Char
  | '#' :: rest => rest.dropWhile isPlain
  | rest => rest

/-- What is left after white space, comments and line breaks.  Each round takes a line break. -/
def skipLinesFor : Nat → List Char → List Char
  | 0, cs => cs
  | fuel + 1, cs =>
    let rest := skipComment (skipSpaces cs)
    match afterBreak? rest with
    | some rest => skipLinesFor fuel rest
    | none => rest

/-- What is left after white space, comments and line breaks. -/
def skipLines (cs : List Char) : List Char :=
  skipLinesFor (cs.length + 1) cs

/-- The depth that is left inside of an array or a table. -/
def enter : Nat → Option Nat
  | depth + 2 => some (depth + 1)
  | _ => none

mutual

/-- A value. -/
def valueFor : Nat → (depth : Nat) → List Char → Option (Tree × List Char)
  | 0, _, _ => none
  | fuel + 1, depth, cs =>
    match cs with
    | '[' :: rest => do
      let (items, rest) ← itemsFor fuel (← enter depth) rest
      pure (.value (.list items), rest)
    | '\x7b' :: rest => do
      let depth ← enter depth
      match skipSpaces rest with
      | '\x7d' :: rest => pure (.value (.table []), rest)
      | rest =>
        let (fields, rest) ← pairsFor fuel depth [] rest
        pure (.value (← (Tree.table .dotted fields).toRaw?), rest)
    | c :: _ =>
      if c = '\x22' ∨ c = '\x27' then (Text.read? cs).map fun r => (.value (.text r.1), r.2)
      else Scalar.read? cs
    | [] => none

/-- The items of a list up to and with its bracket; a comma may follow the last one. -/
def itemsFor : Nat → (depth : Nat) → List Char → Option (List Raw × List Char)
  | 0, _, _ => none
  | fuel + 1, depth, cs =>
    match skipLines cs with
    | ']' :: rest => some ([], rest)
    | rest => do
      let (item, rest) ← valueFor fuel depth rest
      let item ← item.toRaw?
      match skipLines rest with
      | ',' :: rest =>
        let (items, rest) ← itemsFor fuel depth rest
        pure (item :: items, rest)
      | ']' :: rest => pure ([item], rest)
      | _ => none

/-- The fields of a table on one line up to and with its brace. -/
def pairsFor : Nat → (depth : Nat) → Tree.Branches → List Char →
    Option (Tree.Branches × List Char)
  | 0, _, _, _ => none
  | fuel + 1, depth, fields, cs => do
    let (key, rest) ← key? cs
    match rest with
    | '=' :: rest =>
      let (v, rest) ← valueFor fuel depth (skipSpaces rest)
      let fields ← Tree.addValue fields v key
      match skipSpaces rest with
      | ',' :: rest => pairsFor fuel depth fields rest
      | '\x7d' :: rest => pure (fields, rest)
      | _ => none
    | _ => none

end

/-- A value. -/
def value? (cs : List Char) : Option (Tree × List Char) :=
  valueFor (2 * cs.length + 2) maxDepth cs

/-! ## Lines -/

/-- A text as far as it was read. -/
structure Document where
  /-- The table of all. -/
  root : Tree.Branches := []
  /-- The path of the last header, empty before the first one. -/
  current : List String := []

namespace Document

/-- Change the table of the last header. -/
def change (d : Document) (f : Tree.Branches → Option Tree.Branches) : Option Document :=
  match d.current.getLast? with
  | none => (f d.root).map fun root => { d with root := root }
  | some name =>
    (Tree.changeAt (Tree.changeLatest f name) d.root d.current.dropLast).map fun root =>
      { d with root := root }

/-- Start a table, or another table of a list. -/
def start (d : Document) (isItem : Bool) (path : List String) : Option Document := do
  let name ← path.getLast?
  let begin := if isItem then Tree.startItem name else Tree.startTable name
  let root ← Tree.changeAt begin d.root path.dropLast
  pure ⟨root, path⟩

/-- A header after its brackets. -/
def header? (d : Document) (isItem : Bool) (cs : List Char) : Option (Document × List Char) := do
  let (path, rest) ← key? cs
  let rest ←
    match isItem, rest with
    | true, ']' :: ']' :: rest => some rest
    | false, ']' :: rest => some rest
    | _, _ => none
  pure (← d.start isItem path, rest)

/-- What stands on a line, and what is left of it. -/
def statement? (d : Document) (cs : List Char) : Option (Document × List Char) :=
  match cs with
  | '[' :: '[' :: rest => d.header? true rest
  | '[' :: rest => d.header? false rest
  | c :: _ =>
    if c = '#' ∨ (afterBreak? cs).isSome then some (d, cs)
    else do
      let (key, rest) ← key? cs
      match rest with
      | '=' :: rest =>
        let (v, rest) ← value? (skipSpaces rest)
        let d ← d.change fun fields => Tree.addValue fields v key
        pure (d, rest)
      | _ => none
  | [] => some (d, [])

/-- All lines.  Each round takes one. -/
def linesFor : Nat → Document → List Char → Option Document
  | 0, _, _ => none
  | fuel + 1, d, cs => do
    let (d, rest) ← d.statement? (skipSpaces cs)
    match skipComment (skipSpaces rest) with
    | [] => pure d
    | rest =>
      match afterBreak? rest with
      | some rest => linesFor fuel d rest
      | none => none

end Document

/-- The table that a text writes; a byte order mark in front does not count. -/
def parse? (text : String) : Option Fields := do
  let cs := text.toList
  let cs := if cs.head? = some '\ufeff' then cs.drop 1 else cs
  let d ← Document.linesFor (cs.length + 1) {} cs
  if Tree.isMoment d.root then none else Tree.fieldsToRaw? d.root

end Delegation.Toml
