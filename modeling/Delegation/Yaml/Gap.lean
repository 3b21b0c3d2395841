import Delegation.Yaml.Cursor
/-!
# Gaps inside scalars

Words of a scalar are separated by blanks or by line breaks.  A gap without line breaks is kept as
it is.  In a gap with line breaks, blanks vanish and a single line feed becomes a space.
-/

namespace Delegation.Yaml

/-- What stands between two words of a scalar. -/
structure Gap where
  /-- Whether there is a line break. -/
  broken : Bool := false
  /-- The blanks, as long as there is no line break. -/
  blanks : List Char := []
  /-- The first line break, empty if it was escaped. -/
  first : List Char := []
  /-- The other line breaks. -/
  more : List Char := []

namespace Gap

/-- The characters that a gap stands for. -/
def text (g : Gap) : List Char :=
  if !g.broken then g.blanks
  else if g.first = ['\n'] then
    if g.more.isEmpty then [' '] else g.more
  else g.first ++ g.more

/-- The gap from the cursor on, added to what is known of it.  Tabs left of the given column are
refused once there was a line break.  Each round moves over a character, so as many rounds as there
are characters are enough. -/
def scanFor (column : Nat) : Nat → Gap → Cursor → Option (Gap × Cursor)
  | 0, g, c => some (g, c)
  | fuel + 1, g, c =>
    match c.head? with
    | none => some (g, c)
    | some h =>
      if isBlank h then
        if !g.broken then scanFor column fuel { g with blanks := g.blanks ++ [h] } (c.skip 1)
        else if h = '\t' ∧ c.column < column then none
        else scanFor column fuel g (c.skip 1)
      else if isBreak h then
        let (b, next) := c.skipBreak
        if !g.broken then scanFor column fuel { broken := true, first := b } next
        else scanFor column fuel { g with more := g.more ++ b } next
      else some (g, c)

/-- The gap from the cursor on, added to what is known of it. -/
def scan (column : Nat) (g : Gap) (c : Cursor) : Option (Gap × Cursor) :=
  scanFor column c.rest.length g c

end Gap

end Delegation.Yaml
