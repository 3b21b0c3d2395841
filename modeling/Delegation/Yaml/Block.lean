import Delegation.Yaml.Cursor
/-!
# Block scalars

A block scalar is a run of indented lines after a header.  In the literal style line breaks are
kept; in the folded style a line break between two lines that do not start with a blank becomes a
space.  The header may give the indentation, and whether line breaks at the end are dropped, kept,
or reduced to one.
-/

namespace Delegation.Yaml.Block

/-- What becomes of the line breaks at the end. -/
inductive Chomping where
  /-- All are dropped. -/
  | strip
  /-- One is kept. -/
  | clip
  /-- All are kept. -/
  | keep
deriving DecidableEq, Repr

/-- What the header of a block scalar says. -/
structure Header where
  /-- What becomes of the line breaks at the end. -/
  chomping : Chomping := .clip
  /-- The indentation relative to the collection around it, if it is given. -/
  increment : Option Nat := none
deriving DecidableEq, Repr

/-- A sign of the header. -/
def chomping? (c : Char) : Option Chomping :=
  if c = '+' then some .keep else if c = '-' then some .strip else none

/-- The sign at the start of some characters, if there is one, and the number of its
characters. -/
def sign (cs : List Char) : Chomping × Nat :=
  match cs.head?.bind chomping? with
  | some s => (s, 1)
  | none => (.clip, 0)

/-- The digit at the start of some characters, if there is one, and the number of its characters;
a zero is refused. -/
def digit? (cs : List Char) : Option (Option Nat × Nat) :=
  match cs with
  | c :: _ =>
    if c = '0' then none
    else if c.isDigit then some (some (c.toNat - 48), 1)
    else some (none, 0)
  | [] => some (none, 0)

/-- The header after its first character: a sign and a digit in either order, each optional. -/
def header? (cs : List Char) : Option (Header × Nat) :=
  match sign cs with
  | (s, 1) => (digit? (cs.drop 1)).map fun d => (⟨s, d.1⟩, 1 + d.2)
  | _ =>
    match digit? cs with
    | none => none
    | some (d, n) =>
      let s := if n = 0 then (.clip, 0) else sign (cs.drop n)
      some (⟨s.1, d⟩, n + s.2)

/-- Indentation and empty lines. -/
structure Margin where
  /-- The line breaks. -/
  breaks : List Char
  /-- The column of the first character that belongs to neither, or of the deepest space. -/
  deepest : Nat
  /-- The place after them. -/
  cursor : Cursor

/-- Skip the spaces left of a column, or all spaces if the column is not known yet, and empty
lines.  Tabs are refused where a space is expected. -/
def marginFor (column : Option Nat) : Nat → Margin → Option Margin
  | 0, m => some m
  | fuel + 1, m =>
    let spaces := (m.cursor.prefixOf (· == ' ')).length
    let room :=
      match column with
      | some k => k - m.cursor.column
      | none => spaces
    let c := m.cursor.skip (min spaces room)
    let inside :=
      match column with
      | some k => decide (c.column < k)
      | none => true
    let deepest := max m.deepest c.column
    match c.head? with
    | none => some ⟨m.breaks, deepest, c⟩
    | some h =>
      if inside && h == '\t' then none
      else if isBreak h then
        let (b, next) := c.skipBreak
        marginFor column fuel ⟨m.breaks ++ b, deepest, next⟩
      else some ⟨m.breaks, deepest, c⟩

/-- Skip indentation and empty lines. -/
def margin (column : Option Nat) (c : Cursor) : Option Margin :=
  marginFor column (c.rest.length + 1) ⟨[], 0, c⟩

/-- A block scalar as far as it was read. -/
structure Reading where
  /-- The text without what follows. -/
  text : List Char := []
  /-- The line break at the end of the last line. -/
  last : List Char := []
  /-- The line breaks after it. -/
  more : List Char := []
  /-- Whether the last line starts with a blank. -/
  indented : Bool := false

/-- Add a line.  In the folded style, a line break between two lines that do not start with a blank
becomes a space, or vanishes if there are more. -/
def Reading.add (literal : Bool) (r : Reading) (line lineBreak more : List Char) : Reading :=
  let indented := startsWithAny [' ', '\t'] line
  let folds := !literal && r.last == ['\n'] && !r.indented && !indented
  let between :=
    if folds then (if r.more.isEmpty then [' '] else r.more) else r.last ++ r.more
  ⟨r.text ++ between ++ line, lineBreak, more, indented⟩

/-- Read lines at a column. -/
def linesFor (literal : Bool) (column : Nat) : Nat → Reading → Cursor → Option (Reading × Cursor)
  | 0, r, c => some (r, c)
  | fuel + 1, r, c =>
    if c.column = column ∧ !c.rest.isEmpty then
      let line := c.prefixOf (!isBreak ·)
      let (b, next) := (c.skip line.length).skipBreak
      match margin (some column) next with
      | none => none
      | some m => linesFor literal column fuel (r.add literal line b m.breaks) m.cursor
    else some (r, c)

/-- The text of a block scalar. -/
def Reading.result (r : Reading) : Chomping → List Char
  | .strip => r.text
  | .clip => r.text ++ r.last
  | .keep => r.text ++ r.last ++ r.more

/-- The block scalar at the cursor, which stands on its first character; the collection around it
is indented as given, by minus one if there is none. -/
def scan (literal : Bool) (indent : Int) (c : Cursor) : Option (List Char × Cursor) := do
  let (header, n) ← header? (c.skip 1).rest
  let c := (c.skip (n + 1)).skipWhile isBlank
  let c := if c.head? = some '#' then c.skipToBreak else c
  if !endsLine c.rest then none
  else
    let c := c.skipBreak.2
    let given := header.increment.map fun k => (max indent 0).toNat + k
    let m ← margin given c
    let column := given.getD (max m.deepest (max (indent + 1).toNat 1))
    let (r, next) ← linesFor literal column (m.cursor.rest.length + 1) { more := m.breaks } m.cursor
    pure (r.result header.chomping, next)

end Delegation.Yaml.Block
