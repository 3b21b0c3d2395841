import Delegation.Yaml.Token
import Delegation.Yaml.Cursor
import Delegation.Number.Reading
import Delegation.Text.Hex
import Delegation.Text.Utf8
/-!
# Names, tags and directives

The tokens that describe nodes and documents.
-/

namespace Delegation.Yaml.Property

/-! ## Anchors and references -/

/-- The name at the cursor, which stands on the character before the name.  It must be followed by
white space or by one of a few marks. -/
def name? (c : Cursor) : Option (List Char × Cursor) :=
  let c := c.skip 1
  let name := c.prefixOf isNameChar
  let after := c.skip name.length
  let ends := endsWord after.rest ||
    startsWithAny ['?', ':', ',', ']', '\x7d', '%', '@', '\x60'] after.rest
  if !name.isEmpty && ends then some (name, after) else none

/-! ## Tags -/

/-- The marks that tags may hold besides letters, digits, hyphens and low lines. -/
def tagMarks : List Char :=
  [';', '/', '?', ':', '@', '&', '=', '+', '$', '.', '%', '!', '~', '*', '\x27', '(', ')']

/-- Whether a character may stand in a tag; commas and brackets only in one that is written in
full. -/
def isTagChar (full : Bool) (c : Char) : Bool :=
  isNameChar c || tagMarks.contains c || (full && [',', '[', ']'].contains c)

/-- The number of bytes of a character, by the first of them. -/
def byteWidth? (b : Nat) : Option Nat :=
  if b < 0x80 then some 1
  else if 0xc0 ≤ b ∧ b < 0xe0 then some 2
  else if 0xe0 ≤ b ∧ b < 0xf0 then some 3
  else if 0xf0 ≤ b ∧ b < 0xf8 then some 4
  else none

/-- Bytes that are written as a percent sign and two digits each. -/
def escapedBytes? : Nat → List Char → Option (List UInt8)
  | 0, _ => some []
  | n + 1, '%' :: a :: b :: rest => do
    let byte ← Hex.toNat? [a, b]
    let bytes ← escapedBytes? n rest
    pure (UInt8.ofNat byte :: bytes)
  | _ + 1, _ => none

/-- The character whose bytes are escaped at the start of some characters, and the number of
characters they take. -/
def escaped? (cs : List Char) : Option (List Char × Nat) := do
  let first ← escapedBytes? 1 cs
  let width ← (first.head?.map UInt8.toNat).bind byteWidth?
  let bytes ← escapedBytes? width cs
  let text ← Utf8.decode? bytes
  pure (text.toList, 3 * width)

/-- The characters of a tag at the cursor, with escapes resolved.  Each round moves over a
character. -/
def tagTextFor (full : Bool) : Nat → List Char → Cursor → Option (List Char × Cursor)
  | 0, acc, c => some (acc, c)
  | fuel + 1, acc, c =>
    match c.head? with
    | none => some (acc, c)
    | some h =>
      if h = '%' then
        match escaped? c.rest with
        | some (e, n) => tagTextFor full fuel (acc ++ e) (c.skip n)
        | none => none
      else if isTagChar full h then tagTextFor full fuel (acc ++ [h]) (c.skip 1)
      else some (acc, c)

/-- The characters of a tag after those that are already known.  There must be one in all. -/
def tagText? (full : Bool) (known : List Char) (counted : Nat) (c : Cursor) :
    Option (List Char × Cursor) :=
  match tagTextFor full c.rest.length [] c with
  | some (text, next) =>
    if counted = 0 ∧ text.isEmpty then none else some (known ++ text, next)
  | none => none

/-- The handle at the start of some characters: an exclamation mark, a name, and perhaps another
exclamation mark. -/
def handleOf? : List Char → Option (List Char)
  | '!' :: cs =>
    let name := cs.takeWhile isNameChar
    if (cs.drop name.length).head? = some '!' then some ('!' :: name ++ ['!'])
    else some ('!' :: name)
  | _ => none

/-- The handle at the cursor. -/
def handle? (c : Cursor) : Option (List Char × Cursor) :=
  (handleOf? c.rest).map fun handle => (handle, c.skip handle.length)

/-- Whether a handle has two exclamation marks. -/
def isFullHandle (handle : List Char) : Bool :=
  2 ≤ handle.length && handle.getLast? == some '!'

/-- Whether a tag may end here: before white space, and inside brackets before a comma. -/
def endsTag (flow : Bool) (c : Cursor) : Bool :=
  endsWord c.rest || (flow && c.head? == some ',')

/-- The handle and the rest of a tag, which may stop at any character. -/
def tagParts? (c : Cursor) : Option (List Char × List Char × Cursor) :=
  if (c.skip 1).head? = some '<' then do
    let (text, after) ← tagText? true [] 0 (c.skip 2)
    if after.head? = some '>' then some ([], text, after.skip 1) else none
  else do
    let (handle, after) ← handle? c
    if isFullHandle handle then
      let (text, next) ← tagText? false [] 0 after
      pure (handle, text, next)
    else
      let (text, next) ← tagText? false (handle.drop 1) handle.length after
      if text.isEmpty then pure ([], ['!'], next) else pure (['!'], text, next)

/-- The tag at the cursor. -/
def tag? (flow : Bool) (c : Cursor) : Option (Token × Cursor) := do
  let (handle, suffix, next) ← tagParts? c
  if endsTag flow next then some (.tag handle suffix, next) else none

/-! ## Directives -/

/-- The number of at most nine digits at the start of some characters, and the number of characters
it takes. -/
def numberOf? (cs : List Char) : Option (Nat × Nat) :=
  let digits := cs.takeWhile isDecimalDigit
  if digits.isEmpty || 9 < digits.length then none
  else some (natOfDigits digits, digits.length)

/-- The number at the cursor. -/
def number? (c : Cursor) : Option (Nat × Cursor) :=
  (numberOf? c.rest).map fun (number, n) => (number, c.skip n)

/-- The version directive after its name. -/
def version? (c : Cursor) : Option (Token × Cursor) := do
  let (major, c) ← number? (c.skipWhile isBlank)
  if c.head? = some '.' then
    let (minor, next) ← number? (c.skip 1)
    pure (.version major minor, next)
  else none

/-- The directive that gives tags a short form, after its name. -/
def shorthand? (c : Cursor) : Option (Token × Cursor) := do
  let (handle, c) ← handle? (c.skipWhile isBlank)
  if !(isFullHandle handle || handle.length = 1) then none
  else if (c.head?.map isBlank).getD false then
    let (stem, next) ← tagText? true [] 0 (c.skipWhile isBlank)
    if endsWord next.rest then pure (.shorthand handle stem, next) else none
  else none

/-- The directive at the cursor, together with the rest of its line. -/
def directive? (c : Cursor) : Option (Token × Cursor) := do
  let c := c.skip 1
  let name := c.prefixOf isNameChar
  let c := c.skip name.length
  if name.isEmpty || !endsWord c.rest then none
  else
    let (token, c) ←
      if name = ['Y', 'A', 'M', 'L'] then version? c
      else if name = ['T', 'A', 'G'] then shorthand? c
      else none
    let c := c.skipWhile isBlank
    let c := if c.head? = some '#' then c.skipToBreak else c
    if endsLine c.rest then pure (token, c.skipBreak.2) else none

end Delegation.Yaml.Property
