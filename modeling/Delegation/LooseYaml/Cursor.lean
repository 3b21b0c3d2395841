import Delegation.Yaml.Cursor
/-!
# Places in a text of loose YAML

Loose YAML is YAML with fewer classes of characters: every character may stand in a text, only line
feeds and carriage returns end lines, and a byte order mark is a character like others.  Blanks and
the characters of names are those of YAML.  A cursor knows the characters that are left, its line
and column, and whether only white space stands before it on its line.
-/

namespace Delegation.LooseYaml

/-! ## Classes of characters -/

export Yaml (isBlank isNameChar)

/-- A character that ends a line. -/
def isBreak (c : Char) : Bool :=
  c == '\n' || c == '\r'

/-- A comma, a bracket or a brace. -/
def isFlowMark (c : Char) : Bool :=
  [',', '[', ']', '\x7b', '\x7d'].contains c

/-- Whether what follows is a blank, a line break or the end of the text. -/
def endsWord : List Char → Bool
  | [] => true
  | c :: _ => isBlank c || isBreak c

/-- Whether what follows is a line break or the end of the text. -/
def endsLine : List Char → Bool
  | [] => true
  | c :: _ => isBreak c

/-- Whether what follows is a comma, a bracket or a brace. -/
def startsFlowMark : List Char → Bool
  | [] => false
  | c :: _ => isFlowMark c

/-! ## Cursors -/

/-- A place in a text. -/
structure Cursor where
  /-- The characters that are left. -/
  rest : List Char
  /-- The number of characters before. -/
  index : Nat := 0
  /-- The number of lines before. -/
  line : Nat := 0
  /-- The number of characters before on the line. -/
  column : Nat := 0
  /-- Whether only white space stands before on the line. -/
  fresh : Bool := true

namespace Cursor

/-- The character at the cursor. -/
def head? (c : Cursor) : Option Char :=
  c.rest.head?

/-- Move over blanks. -/
def skipBlanks (n : Nat) (c : Cursor) : Cursor :=
  { c with rest := c.rest.drop n, index := c.index + n, column := c.column + n }

/-- Move over characters that are neither blanks nor line breaks. -/
def skip (n : Nat) (c : Cursor) : Cursor :=
  { c.skipBlanks n with fresh := c.fresh && n == 0 }

/-- The characters from the cursor on that belong to a class without line breaks. -/
def prefixOf (p : Char → Bool) (c : Cursor) : List Char :=
  c.rest.takeWhile p

/-- Move over a line break. -/
def skipBreak (c : Cursor) : Cursor :=
  match c.rest with
  | '\r' :: '\n' :: rest => ⟨rest, c.index + 2, c.line + 1, 0, true⟩
  | _ :: rest => ⟨rest, c.index + 1, c.line + 1, 0, true⟩
  | [] => c

/-- Move to the end of the line. -/
def skipToBreak (c : Cursor) : Cursor :=
  c.skip (c.prefixOf (!isBreak ·)).length

/-- Whether a line that separates documents starts here. -/
def atDocumentMark (c : Cursor) : Bool :=
  c.column == 0 &&
    match c.rest with
    | '-' :: '-' :: '-' :: rest => endsWord rest
    | '.' :: '.' :: '.' :: rest => endsWord rest
    | _ => false

end Cursor

/-! ## White space up to the end of a line -/

/-- What stands between a token and the next one on its line. -/
structure Spacing where
  /-- Whether there are spaces. -/
  spaces : Bool := false
  /-- Whether there are tabs. -/
  tabs : Bool := false

/-- Move over spaces, tabs if they are allowed, and a comment.  A comment needs white space before
it.  Each round moves over a character. -/
def skipSpacingFor (tabs : Bool) : Nat → Spacing → Cursor → Option (Spacing × Cursor)
  | 0, s, c => some (s, c)
  | fuel + 1, s, c =>
    match c.head? with
    | some ' ' => skipSpacingFor tabs fuel { s with spaces := true } (c.skipBlanks 1)
    | some '\t' =>
      if tabs then skipSpacingFor tabs fuel { s with tabs := true } (c.skipBlanks 1)
      else some (s, c)
    | some '#' => if s.spaces || s.tabs then some (s, c.skipToBreak) else none
    | _ => some (s, c)

/-- Move over spaces, tabs if they are allowed, and a comment. -/
def skipSpacing (tabs : Bool) (c : Cursor) : Option (Spacing × Cursor) :=
  skipSpacingFor tabs (c.rest.length + 1) {} c

/-- Move over white space and a comment, after which the line has to end. -/
def toLineEnd (c : Cursor) : Option Cursor := do
  let (_, c) ← skipSpacing true c
  if endsLine c.rest then some c else none

end Delegation.LooseYaml
