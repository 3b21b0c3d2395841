import Delegation.LooseYaml.Cursor
import Delegation.Yaml.Block
/-!
# Block scalars of loose YAML

A block scalar is a run of indented lines after a header.  In the literal style line breaks are
kept; in the folded style a line break between two lines that do not start with a blank becomes a
space.  A last line without a line break counts as if it had one.
-/

namespace Delegation.LooseYaml.Block

open Yaml.Block (Chomping)

/-- Indentation and empty lines. -/
structure Margin where
  /-- The number of line breaks. -/
  breaks : Nat
  /-- The column of the deepest space, or of the first character after the spaces of a line. -/
  deepest : Nat
  /-- The place after them. -/
  cursor : Cursor

/-- Skip the spaces left of a column, or all spaces if the column is not known yet, and empty lines.
Each round but the last moves over a line break. -/
def marginFor (column : Option Nat) : Nat → Margin → Margin
  | 0, m => m
  | fuel + 1, m =>
    let spaces := (m.cursor.prefixOf (· == ' ')).length
    let c := m.cursor.skipBlanks (column.elim spaces fun k => min spaces (k - m.cursor.column))
    let deepest := max m.deepest c.column
    if !c.rest.isEmpty && endsLine c.rest then
      marginFor column fuel ⟨m.breaks + 1, deepest, c.skipBreak⟩
    else ⟨m.breaks, deepest, c⟩

/-- Skip indentation and empty lines. -/
def margin (column : Option Nat) (c : Cursor) : Margin :=
  marginFor column (c.rest.length + 1) ⟨0, 0, c⟩

/-- A block scalar as far as it was read. -/
structure Reading where
  /-- The text without what follows. -/
  text : List Char := []
  /-- Whether there is a line break at the end of the last line. -/
  broken : Bool := false
  /-- The number of line breaks after it. -/
  more : Nat := 0
  /-- Whether the last line starts with a blank. -/
  indented : Bool := false

/-- The line break at the end of the last line. -/
def Reading.last (r : Reading) : List Char :=
  if r.broken then ['\n'] else []

/-- Add a line without its line break.  In the folded style, a line break between two lines that do
not start with a blank becomes a space, or vanishes if there are more. -/
def Reading.add (literal : Bool) (r : Reading) (line : List Char) : Reading :=
  let indented := line.head?.any isBlank
  let breaks := List.replicate r.more '\n'
  let between :=
    if !literal && r.broken && !r.indented && !indented then
      if r.more = 0 then [' '] else breaks
    else r.last ++ breaks
  { text := r.text ++ between ++ line, indented := indented }

/-- Read lines at a column. -/
def linesFor (literal : Bool) (column : Nat) : Nat → Reading → Cursor → Reading × Cursor
  | 0, r, c => (r, c)
  | fuel + 1, r, c =>
    if c.column = column ∧ !c.rest.isEmpty then
      let line := c.prefixOf (!isBreak ·)
      let r := r.add literal line
      let c := c.skipBlanks line.length
      if c.rest.isEmpty then (r, c)
      else
        let m := margin (some column) c.skipBreak
        linesFor literal column fuel { r with broken := true, more := m.breaks } m.cursor
    else (r, c)

/-- The text of a block scalar that ends at a place; the last line may end with the text. -/
def Reading.result (r : Reading) (column : Nat) (stop : Cursor) (chomping : Chomping) : List Char :=
  let final := if stop.rest.isEmpty ∧ max column 1 ≤ stop.column then ['\n'] else []
  match chomping with
  | .strip => r.text
  | .clip => r.text ++ r.last ++ final
  | .keep => r.text ++ r.last ++ final ++ List.replicate r.more '\n'

/-- The text of a block scalar without lines at the end of the text.  If there was a line break
after its header, it is the only one that counts, unless all are kept. -/
def emptyText (broken : Bool) (breaks : Nat) : Chomping → List Char
  | .strip => []
  | .clip => if broken then ['\n'] else []
  | .keep => if broken then List.replicate (max breaks 1) '\n' else []

/-- The block scalar at the cursor, which stands on its first character; the collection around it
is indented as given, by minus one if there is none. -/
def scan (literal : Bool) (indent : Int) (c : Cursor) : Option (List Char × Cursor) := do
  let (header, n) ← Yaml.Block.header? (c.skip 1).rest
  let c ← toLineEnd (c.skip (n + 1))
  let broken := !c.rest.isEmpty
  let c := c.skipBreak
  if c.head? = some '\t' then none
  else
    let given := header.increment.map fun k => (max indent 0).toNat + k
    let m := margin given c
    let column := given.getD (max m.deepest (max (indent + 1).toNat (if 0 < indent then 1 else 0)))
    let c := m.cursor
    if c.rest.isEmpty then pure (emptyText broken m.breaks header.chomping, c)
    else if c.column < column ∧ indent < c.column then none
    else
      let (r, next) := linesFor literal column (c.rest.length + 1) { more := m.breaks } c
      pure (r.result column next header.chomping, next)

end Delegation.LooseYaml.Block
