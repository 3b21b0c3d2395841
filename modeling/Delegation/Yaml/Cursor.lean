/-!
# Places in a text

The classes of characters that YAML tells apart, and a cursor that knows the characters that are
left and its line and column.
-/

namespace Delegation.Yaml

/-! ## Classes of characters -/

/-- The characters that may stand in a text: no control characters but tabs and line breaks. -/
def isAllowed (c : Char) : Bool :=
  let n := c.toNat
  n == 9 || n == 10 || n == 13 || (0x20 ≤ n && n ≤ 0x7e) || n == 0x85 ||
    (0xa0 ≤ n && n ≤ 0xd7ff) || (0xe000 ≤ n && n ≤ 0xfffd) || 0x10000 ≤ n

/-- A space or a tab. -/
def isBlank (c : Char) : Bool :=
  c == ' ' || c == '\t'

/-- A character that ends a line. -/
def isBreak (c : Char) : Bool :=
  c == '\n' || c == '\r' || c.toNat == 0x85 || c.toNat == 0x2028 || c.toNat == 0x2029

/-- Whether what follows is a blank, a line break or the end of the text. -/
def endsWord : List Char → Bool
  | [] => true
  | c :: _ => isBlank c || isBreak c

/-- Whether what follows is a line break or the end of the text. -/
def endsLine : List Char → Bool
  | [] => true
  | c :: _ => isBreak c

/-- Whether what follows starts with one of the given characters. -/
def startsWithAny (set : List Char) : List Char → Bool
  | [] => false
  | c :: _ => set.contains c

/-- The ASCII letters and digits, the hyphen and the low line. -/
def isNameChar (c : Char) : Bool :=
  c.isAlphanum || c == '-' || c == '_'

/-! ## Cursors -/

/-- A place in a text. -/
structure Cursor where
  /-- The characters that are left. -/
  rest : List Char
  /-- The number of bytes before, in UTF-8. -/
  offset : Nat := 0
  /-- The number of lines before. -/
  line : Nat := 0
  /-- The number of characters before on the line. -/
  column : Nat := 0

namespace Cursor

/-- The character at the cursor. -/
def head? (c : Cursor) : Option Char :=
  c.rest.head?

/-- The number of bytes of characters in UTF-8. -/
def byteCount (cs : List Char) : Nat :=
  cs.foldl (fun n c => n + c.utf8Size) 0

/-- Move over characters that are no line breaks. -/
def skip (n : Nat) (c : Cursor) : Cursor :=
  { c with
    rest := c.rest.drop n
    offset := c.offset + byteCount (c.rest.take n)
    column := c.column + n }

/-- The characters from the cursor on that belong to a class without line breaks. -/
def prefixOf (p : Char → Bool) (c : Cursor) : List Char :=
  c.rest.takeWhile p

/-- Move over the characters of a class without line breaks. -/
def skipWhile (p : Char → Bool) (c : Cursor) : Cursor :=
  c.skip (c.prefixOf p).length

/-- Move over a line break.  The break is kept as a line feed, except that the two separators of
Unicode are kept as they are. -/
def skipBreak (c : Cursor) : List Char × Cursor :=
  match c.rest with
  | '\r' :: '\n' :: rest => (['\n'], ⟨rest, c.offset + 2, c.line + 1, 0⟩)
  | b :: rest =>
    let kept := if b.toNat = 0x2028 ∨ b.toNat = 0x2029 then b else '\n'
    ([kept], ⟨rest, c.offset + b.utf8Size, c.line + 1, 0⟩)
  | [] => ([], c)

/-- Move to the end of the line. -/
def skipToBreak (c : Cursor) : Cursor :=
  c.skipWhile (!isBreak ·)

/-- Whether a line that separates documents starts here. -/
def atDocumentMark (c : Cursor) : Bool :=
  c.column == 0 &&
    match c.rest with
    | '-' :: '-' :: '-' :: rest => endsWord rest
    | '.' :: '.' :: '.' :: rest => endsWord rest
    | _ => false

end Cursor

end Delegation.Yaml
