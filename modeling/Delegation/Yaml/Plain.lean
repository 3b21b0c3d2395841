import Delegation.Yaml.Gap
/-!
# Plain scalars

A plain scalar has no quotes.  It ends before a comment, before a colon that is followed by white
space, at a line that is not indented more than the collection around it, and inside brackets also
before a comma or a bracket.
-/

namespace Delegation.Yaml.Plain

/-- The characters that separate the items of a flow collection. -/
def separators : List Char :=
  [',', '[', ']', '\x7b', '\x7d']

/-- The word at the start of some characters.  Inside brackets, a colon before a separator or a
question mark is refused. -/
def word (flow : Bool) : List Char → Option (List Char)
  | [] => some []
  | c :: rest =>
    if isBlank c || isBreak c then some []
    else if flow && c == ':' && startsWithAny ('?' :: separators) rest then none
    else if (c == ':' && endsWord rest) || (flow && separators.contains c) then some []
    else (word flow rest).map (c :: ·)

/-- A plain scalar as far as it was read. -/
structure Reading where
  /-- The text up to the last word. -/
  text : List Char := []
  /-- The gap after it. -/
  gap : Gap := {}

/-- Add a word, if there is one. -/
def Reading.add (r : Reading) (w : List Char) : Reading :=
  if w.isEmpty then r else ⟨r.text ++ r.gap.text ++ w, {}⟩

/-- Read words and gaps up to the end of the scalar.  Each round but the last moves over a gap. -/
def scanFor (flow : Bool) (column : Nat) : Nat → Reading → Cursor → Option (Reading × Cursor)
  | 0, r, c => some (r, c)
  | fuel + 1, r, c =>
    if c.atDocumentMark || c.head? == some '#' then some (r, c)
    else
      match word flow c.rest with
      | none => none
      | some w =>
        let r := r.add w
        let c := c.skip w.length
        if c.rest.isEmpty || !endsWord c.rest then some (r, c)
        else
          match Gap.scan column r.gap c with
          | none => none
          | some (g, next) =>
            let r := { r with gap := g }
            if !flow && next.column < column then some (r, next)
            else scanFor flow column fuel r next

/-- The plain scalar at the cursor, inside brackets or not, whose lines have to start at the given
column or right of it.  Also tells whether a line break stands between its last word and the new
cursor. -/
def scan (flow : Bool) (column : Nat) (c : Cursor) : Option (List Char × Bool × Cursor) :=
  (scanFor flow column (c.rest.length + 1) {} c).map fun r => (r.1.text, r.1.gap.broken, r.2)

end Delegation.Yaml.Plain
