import Delegation.LooseYaml.Cursor
import Delegation.Yaml.Property
/-!
# Names, tags and directives of loose YAML

The tokens that describe nodes and documents.  Handles, the numbers of versions and the widths of
escaped characters are those of YAML; names, addresses and escapes are not.
-/

namespace Delegation.LooseYaml.Property

open Yaml (Token)
open Yaml.Property (byteWidth? handleOf? isFullHandle numberOf?)

/-! ## Anchors and references -/

/-- Whether a character may stand in the name of an anchor. -/
def isAnchorChar (c : Char) : Bool :=
  !(isBlank c || isBreak c || isFlowMark c || c == '\ufeff')

/-- The name at the cursor, which stands on the character before the name. -/
def name? (c : Cursor) : Option (List Char × Cursor) :=
  let c := c.skip 1
  let name := c.prefixOf isAnchorChar
  if name.isEmpty then none else some (name, c.skip name.length)

/-! ## Tags -/

/-- The marks that addresses may hold besides letters, digits and hyphens. -/
def addressMarks : List Char :=
  ['#', ';', '/', '?', ':', '@', '&', '=', '+', '$', ',', '_', '.', '!', '~', '*', '\x27', '(', ')',
    '[', ']', '%']

/-- Whether a character may stand in an address. -/
def isAddressChar (c : Char) : Bool :=
  c.isAlphanum || c == '-' || addressMarks.contains c

/-- Whether a character may stand in a tag that is not written in full. -/
def isTagChar (c : Char) : Bool :=
  isAddressChar c && !isFlowMark c && c != '!'

/-- A byte that is written as a percent sign and two digits. -/
def escapedByte? : List Char → Option Nat
  | '%' :: a :: b :: _ => Hex.toNat? [a, b]
  | _ => none

/-- The number whose digits to base 256 are the given number of further bytes after what is known of
it. -/
def furtherBytes? : Nat → Nat → List Char → Option Nat
  | 0, known, _ => some known
  | n + 1, known, cs => do
    let byte ← escapedByte? cs
    if 0x80 ≤ byte ∧ byte < 0xc0 then furtherBytes? n (256 * known + byte) (cs.drop 3) else none

/-- The character that is escaped at the start of some characters, and the number of characters that
the escape takes.  Its bytes together are its code. -/
def escaped? (cs : List Char) : Option (Char × Nat) := do
  let first ← escapedByte? cs
  let width ← byteWidth? first
  let code ← furtherBytes? (width - 1) first (cs.drop 3)
  let char ← Hex.charOfCode? code
  pure (char, 3 * width)

/-- The characters of a class at the cursor, with escapes resolved.  Each round moves over a
character. -/
def textFor (p : Char → Bool) : Nat → List Char → Cursor → Option (List Char × Cursor)
  | 0, acc, c => some (acc, c)
  | fuel + 1, acc, c =>
    match c.head? with
    | none => some (acc, c)
    | some h =>
      if !p h then some (acc, c)
      else if h = '%' then
        match escaped? c.rest with
        | some (e, n) => textFor p fuel (acc ++ [e]) (c.skip n)
        | none => none
      else textFor p fuel (acc ++ [h]) (c.skip 1)

/-- The characters of a class at the cursor, with escapes resolved. -/
def text (p : Char → Bool) (c : Cursor) : Option (List Char × Cursor) :=
  textFor p c.rest.length [] c

/-- The handle at the cursor. -/
def handle? (c : Cursor) : Option (List Char × Cursor) :=
  (handleOf? c.rest).map fun handle => (handle, c.skip handle.length)

/-- The handle and the rest of a tag, which may stop at any character. -/
def tagParts? (c : Cursor) : Option (List Char × List Char × Cursor) := do
  if (c.skip 1).head? = some '<' then
    let (address, after) ← text isAddressChar (c.skip 2)
    if after.head? = some '>' then some ([], address, after.skip 1) else none
  else
    let (handle, after) ← handle? c
    let (suffix, next) ← text isTagChar after
    if isFullHandle handle then
      if suffix.isEmpty then none else pure (handle, suffix, next)
    else
      let suffix := handle.drop 1 ++ suffix
      if suffix.isEmpty then pure ([], ['!'], next) else pure (['!'], suffix, next)

/-- The tag at the cursor, inside brackets or not. -/
def tag? (flow : Bool) (c : Cursor) : Option (Token × Cursor) := do
  let (handle, suffix, next) ← tagParts? c
  if endsWord next.rest || (flow && startsFlowMark next.rest) then
    some (.tag handle suffix, next)
  else none

/-! ## Directives -/

/-- The number at the cursor. -/
def number? (c : Cursor) : Option (Nat × Cursor) :=
  (numberOf? c.rest).map fun (number, n) => (number, c.skip n)

/-- Move over blanks. -/
def afterBlanks (c : Cursor) : Cursor :=
  c.skipBlanks (c.prefixOf isBlank).length

/-- The version directive after its name. -/
def version? (c : Cursor) : Option (Token × Cursor) := do
  let (major, c) ← number? (afterBlanks c)
  if c.head? = some '.' then
    let (minor, next) ← number? (c.skip 1)
    pure (.version major minor, next)
  else none

/-- What a short form of tags stands for: its first character is an exclamation mark or one of a
tag. -/
def stem? (c : Cursor) : Option (List Char × Cursor) := do
  let h ← c.head?
  if h = '!' then
    let (rest, next) ← text isAddressChar (c.skip 1)
    pure ('!' :: rest, next)
  else if isTagChar h then text isAddressChar c
  else none

/-- The directive that gives tags a short form, after its name. -/
def shorthand? (c : Cursor) : Option (Token × Cursor) := do
  let (handle, c) ← handle? (afterBlanks c)
  if isFullHandle handle || handle.length == 1 then
    let (stem, next) ← stem? (afterBlanks c)
    if endsWord next.rest then pure (.shorthand handle stem, next) else none
  else none

/-- The directive at the cursor, together with the rest of its line.  A directive of another name
counts as a short form of nothing. -/
def directive? (c : Cursor) : Option (Token × Cursor) := do
  let c := c.skip 1
  let name := c.prefixOf isNameChar
  let c := c.skip name.length
  if name.isEmpty || !endsWord c.rest then none
  else
    let (token, c) ←
      if name = ['Y', 'A', 'M', 'L'] then version? c
      else if name = ['T', 'A', 'G'] then shorthand? c
      else some (.shorthand [] [], c.skipToBreak)
    pure (token, (← toLineEnd c).skipBreak)

end Delegation.LooseYaml.Property
