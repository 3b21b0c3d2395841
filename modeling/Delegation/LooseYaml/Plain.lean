import Delegation.LooseYaml.Cursor
/-!
# Plain scalars of loose YAML

A plain scalar has no quotes.  It ends before a comment, before a colon that is followed by white
space, at a line that is not indented more than the collection around it, and inside brackets also
before a comma or a bracket.
-/

namespace Delegation.LooseYaml

/-- What stands between two words of a scalar. -/
structure Fold where
  /-- The blanks, as long as there is no line break. -/
  blanks : List Char := []
  /-- Whether there is a line break that was not escaped. -/
  broken : Bool := false
  /-- The number of further line breaks. -/
  more : Nat := 0

/-- The characters between two words: blanks, or what remains of line breaks. -/
def Fold.text (f : Fold) (lines : Bool) : List Char :=
  if !lines then f.blanks
  else if f.broken && f.more == 0 then [' ']
  else List.replicate f.more '\n'

namespace Plain

/-- The word at the start of some characters. -/
def word (flow : Bool) : List Char → List Char
  | [] => []
  | c :: rest =>
    if isBlank c || isBreak c then []
    else if c == ':' && (endsWord rest || (flow && startsFlowMark rest)) then []
    else if flow && isFlowMark c then []
    else c :: word flow rest

/-- A plain scalar as far as it was read. -/
structure Reading where
  /-- The text up to the last word. -/
  text : List Char := []
  /-- What stands after it. -/
  fold : Fold := {}

/-- Add a word, if there is one; it may be the first one of its line. -/
def Reading.add (fresh : Bool) (w : List Char) (r : Reading) : Reading :=
  if w.isEmpty then r else ⟨r.text ++ r.fold.text fresh ++ w, {}⟩

/-- Move over blanks and line breaks.  Tabs left of the given column are refused unless their line
is empty.  Each round moves over a character. -/
def skipFor (column : Int) : Nat → Fold → Cursor → Option (Fold × Cursor)
  | 0, f, c => some (f, c)
  | fuel + 1, f, c =>
    match c.head? with
    | none => some (f, c)
    | some h =>
      if isBlank h then
        if !c.fresh then skipFor column fuel { f with blanks := f.blanks ++ [h] } (c.skipBlanks 1)
        else if c.column < column ∧ h = '\t' then (toLineEnd c).bind (skipFor column fuel f)
        else skipFor column fuel f (c.skipBlanks 1)
      else if isBreak h then
        let f :=
          if c.fresh then { f with more := f.more + 1 } else { f with blanks := [], broken := true }
        skipFor column fuel f c.skipBreak
      else some (f, c)

/-- Read words and what is between them up to the end of the scalar.  Each round but the last moves
over a character. -/
def scanFor (flow : Bool) (column : Int) : Nat → Reading → Cursor → Option (Reading × Cursor)
  | 0, r, c => some (r, c)
  | fuel + 1, r, c =>
    if c.atDocumentMark || c.head? == some '#' then some (r, c)
    else if flow && c.head? == some '-' && startsFlowMark (c.rest.drop 1) then none
    else
      let w := word flow c.rest
      let r := r.add c.fresh w
      let c := c.skip w.length
      if c.rest.isEmpty || !endsWord c.rest then some (r, c)
      else
        match skipFor column (c.rest.length + 1) r.fold c with
        | none => none
        | some (f, next) =>
          let r := { r with fold := f }
          if !flow && next.column < column then some (r, next)
          else scanFor flow column fuel r next

/-- The plain scalar at the cursor, inside brackets or not, whose lines have to start at the given
column or right of it. -/
def scan (flow : Bool) (column : Int) (c : Cursor) : Option (List Char × Cursor) :=
  if flow && c.column < column then none
  else (scanFor flow column (c.rest.length + 1) {} c).map fun r => (r.1.text, r.2)

end Plain

end Delegation.LooseYaml
