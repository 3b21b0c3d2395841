import Delegation.Yaml.Block
import Delegation.Yaml.Plain
import Delegation.Yaml.Property
import Delegation.Yaml.Quoted
/-!
# Reading tokens

Whether something is a key only shows at the colon after it.  So the lexer remembers, for each level
of brackets, the latest place that may turn out to start a key, and inserts the tokens for the start
of the key, and of the mapping if it is the first key, when the colon comes.
-/

namespace Delegation.Yaml

/-- A place that may turn out to start a key. -/
structure Candidate where
  /-- Whether it has to be a key, because it is in the column of the keys around it. -/
  required : Bool
  /-- The number of tokens before it. -/
  position : Nat
  /-- The number of bytes before it. -/
  offset : Nat
  /-- Its line. -/
  line : Nat
  /-- Its column. -/
  column : Nat

/-- A text as far as its tokens were read. -/
structure Lexer where
  /-- The place up to which the text was read. -/
  cursor : Cursor
  /-- The tokens. -/
  tokens : Array Token := #[]
  /-- The column of the collection around the cursor, minus one if there is none. -/
  indent : Int := -1
  /-- The columns of the collections around that one. -/
  outer : List Int := []
  /-- The candidate outside of brackets or on the innermost level of them. -/
  candidate : Option Candidate := none
  /-- The candidates on the levels around that one. -/
  levels : List (Option Candidate) := []
  /-- Whether a key may start here. -/
  keyAllowed : Bool := true

namespace Lexer

/-- Whether the cursor is inside brackets. -/
def inFlow (l : Lexer) : Bool :=
  !l.levels.isEmpty

/-- Add a token. -/
def emit (l : Lexer) (t : Token) : Lexer :=
  { l with tokens := l.tokens.push t }

/-- Add a token and move on. -/
def emitAt (l : Lexer) (t : Token) (c : Cursor) : Lexer :=
  { l with tokens := l.tokens.push t, cursor := c }

/-! ## Candidates for keys -/

/-- Whether a candidate is too far away for a colon to make it a key. -/
def isStale (c : Cursor) (k : Candidate) : Bool :=
  k.line < c.line || k.offset + 1024 < c.offset

/-- Forget a candidate that is too far away. -/
def refresh (c : Cursor) : Option Candidate → Option (Option Candidate)
  | none => some none
  | some k => if isStale c k then (if k.required then none else some none) else some (some k)

/-- Forget all candidates that are too far away; none of them may be required. -/
def dropStale (l : Lexer) : Option Lexer := do
  let candidate ← refresh l.cursor l.candidate
  let levels ← l.levels.mapM (refresh l.cursor)
  pure { l with candidate := candidate, levels := levels }

/-- Forget the innermost candidate, which may not be required. -/
def dropCandidate (l : Lexer) : Option Lexer :=
  match l.candidate with
  | some k => if k.required then none else some { l with candidate := none }
  | none => some l

/-- Remember the cursor as a candidate, if a key may start here. -/
def saveCandidate (l : Lexer) : Option Lexer :=
  if l.keyAllowed then do
    let l ← l.dropCandidate
    pure { l with candidate := some {
      required := !l.inFlow && l.indent == l.cursor.column
      position := l.tokens.size
      offset := l.cursor.offset
      line := l.cursor.line
      column := l.cursor.column } }
  else some l

/-! ## Indentation -/

/-- Start a collection in a column right of the one around it, with its token at a position. -/
def openBlock (l : Lexer) (column position : Nat) (t : Token) : Lexer :=
  if !l.inFlow && l.indent < column then
    { l with
      indent := column
      outer := l.indent :: l.outer
      tokens := l.tokens.insertIdxIfInBounds position t }
  else l

/-- End the collections right of a column. -/
def closeBlocksFor (column : Int) : List Int → Lexer → Lexer
  | [], l => l
  | i :: outer, l =>
    if column < l.indent then
      closeBlocksFor column outer { l.emit .blockEnd with indent := i, outer := outer }
    else l

/-- End the collections right of a column; brackets protect what is inside them. -/
def closeBlocks (l : Lexer) (column : Int) : Lexer :=
  if l.inFlow then l else closeBlocksFor column l.outer l

/-! ## Between tokens -/

/-- Whether a character may be skipped between tokens.  Tabs may not stand where a key may
start. -/
def isSkipped (l : Lexer) (c : Char) : Bool :=
  c == ' ' || ((l.inFlow || !l.keyAllowed) && c == '\t')

/-- Skip a byte order mark at the start of a line. -/
def skipMark (c : Cursor) : Cursor :=
  if c.column = 0 ∧ c.head? = some '\ufeff' then c.skip 1 else c

/-- Skip byte order marks at the starts of lines, white space, comments and line breaks; outside of
brackets, a key may start on a new line.  Each round but the last moves over a line break. -/
def skipGapFor : Nat → Lexer → Lexer
  | 0, l => l
  | fuel + 1, l =>
    let c := (skipMark l.cursor).skipWhile l.isSkipped
    let c := if c.head? = some '#' then c.skipToBreak else c
    match c.head? with
    | some b =>
      if isBreak b then
        skipGapFor fuel { l with cursor := c.skipBreak.2, keyAllowed := l.keyAllowed || !l.inFlow }
      else { l with cursor := c }
    | none => { l with cursor := c }

/-- Skip white space, comments and line breaks. -/
def skipGap (l : Lexer) : Lexer :=
  skipGapFor (l.cursor.rest.length + 1) l

/-! ## Tokens -/

/-- A directive. -/
def readDirective (l : Lexer) : Option Lexer := do
  let l ← (l.closeBlocks (-1)).dropCandidate
  let (t, c) ← Property.directive? l.cursor
  pure { l.emitAt t c with keyAllowed := false }

/-- A line that separates documents. -/
def readDocumentMark (l : Lexer) (t : Token) : Option Lexer := do
  let l ← (l.closeBlocks (-1)).dropCandidate
  pure { l.emitAt t (l.cursor.skip 3) with keyAllowed := false }

/-- An opening bracket or brace. -/
def readOpening (l : Lexer) (t : Token) : Option Lexer := do
  let l ← l.saveCandidate
  pure { l.emitAt t (l.cursor.skip 1) with
    levels := l.candidate :: l.levels
    candidate := none
    keyAllowed := true }

/-- A closing bracket or brace. -/
def readClosing (l : Lexer) (t : Token) : Option Lexer := do
  let l ← l.dropCandidate
  let l := { l.emitAt t (l.cursor.skip 1) with keyAllowed := false }
  match l.levels with
  | [] => pure l
  | k :: levels => pure { l with candidate := k, levels := levels }

/-- A comma between items. -/
def readSeparator (l : Lexer) : Option Lexer := do
  let l ← l.dropCandidate
  pure { l.emitAt .separator (l.cursor.skip 1) with keyAllowed := true }

/-- A hyphen in front of an item. -/
def readItem (l : Lexer) : Option Lexer := do
  if !l.inFlow && !l.keyAllowed then none
  else
    let l ← (l.openBlock l.cursor.column l.tokens.size .blockSequence).dropCandidate
    pure { l.emitAt .item (l.cursor.skip 1) with keyAllowed := true }

/-- A question mark in front of a key. -/
def readKey (l : Lexer) : Option Lexer := do
  if !l.inFlow && !l.keyAllowed then none
  else
    let l ← (l.openBlock l.cursor.column l.tokens.size .blockMapping).dropCandidate
    pure { l.emitAt .key (l.cursor.skip 1) with keyAllowed := !l.inFlow }

/-- A colon in front of a value. -/
def readValue (l : Lexer) : Option Lexer :=
  match l.candidate with
  | some k =>
    let l := { l with tokens := l.tokens.insertIdxIfInBounds k.position .key, candidate := none }
    let l := l.openBlock k.column k.position .blockMapping
    some { l.emitAt .value (l.cursor.skip 1) with keyAllowed := false }
  | none =>
    if !l.inFlow && !l.keyAllowed then none
    else
      let l := l.openBlock l.cursor.column l.tokens.size .blockMapping
      some { l.emitAt .value (l.cursor.skip 1) with keyAllowed := !l.inFlow }

/-- A token that may start a key. -/
def readNode (l : Lexer) (t : Lexer → Option (Token × Cursor)) : Option Lexer := do
  let l ← l.saveCandidate
  let (t, c) ← t l
  pure { l.emitAt t c with keyAllowed := false }

/-- A scalar without quotes; if it ends with a line break, a key may start after it. -/
def readPlain (l : Lexer) : Option Lexer := do
  let l ← l.saveCandidate
  let (text, broken, c) ← Plain.scan l.inFlow (l.indent + 1).toNat l.cursor
  pure { l.emitAt (.scalar .plain text) c with keyAllowed := broken }

/-- A scalar of indented lines. -/
def readBlock (l : Lexer) (literal : Bool) : Option Lexer := do
  let l ← l.dropCandidate
  let (text, c) ← Block.scan literal l.indent l.cursor
  let style : Style := if literal then .literal else .folded
  pure { l.emitAt (.scalar style text) c with keyAllowed := true }

/-- A scalar in quotes. -/
def quoted (single : Bool) (l : Lexer) : Option (Token × Cursor) :=
  (Quoted.scan single l.cursor).map fun r => (.scalar .quoted r.1, r.2)

/-- A reference or a name for a node. -/
def named (t : List Char → Token) (l : Lexer) : Option (Token × Cursor) :=
  (Property.name? l.cursor).map fun r => (t r.1, r.2)

/-- The characters that have a meaning of their own at the start of a token. -/
def indicators : List Char :=
  ['-', '?', ':', ',', '[', ']', '\x7b', '\x7d', '#', '&', '*', '!', '|', '>', '\x27', '\x22', '%',
    '@', '\x60']

/-- Whether a scalar without quotes may start with a character. -/
def startsPlain (l : Lexer) (c : Char) (rest : List Char) : Bool :=
  !(isBlank c || isBreak c || indicators.contains c) ||
    (c == '-' && !startsWithAny [' ', '\t'] rest) ||
    (!l.inFlow && (c == '?' || c == ':') && !endsWord rest)

/-- The token that starts with a character. -/
def readToken (l : Lexer) (c : Char) (rest : List Char) : Option Lexer :=
  if l.cursor.column = 0 ∧ c = '%' then l.readDirective
  else if l.cursor.atDocumentMark then
    l.readDocumentMark (if c = '-' then .documentStart else .documentEnd)
  else if c = '[' then l.readOpening .openSequence
  else if c = '\x7b' then l.readOpening .openMapping
  else if c = ']' then l.readClosing .closeSequence
  else if c = '\x7d' then l.readClosing .closeMapping
  else if c = ',' then l.readSeparator
  else if c = '-' ∧ endsWord rest then l.readItem
  else if c = '?' ∧ (l.inFlow ∨ endsWord rest) then l.readKey
  else if c = ':' ∧ (l.inFlow ∨ endsWord rest) then l.readValue
  else if c = '*' then l.readNode (named .reference)
  else if c = '&' then l.readNode (named .anchor)
  else if c = '!' then l.readNode fun l => Property.tag? l.inFlow l.cursor
  else if c = '|' ∧ !l.inFlow then l.readBlock true
  else if c = '>' ∧ !l.inFlow then l.readBlock false
  else if c = '\x27' then l.readNode (quoted true)
  else if c = '\x22' then l.readNode (quoted false)
  else if l.startsPlain c rest then l.readPlain
  else none

/-- The end of the text. -/
def finish (l : Lexer) : Option (List Token) :=
  ((l.closeBlocks (-1)).dropCandidate).map fun l => l.tokens.toList

/-- Read the tokens that are left.  Each round moves over a character. -/
def runFor : Nat → Lexer → Option (List Token)
  | 0, _ => none
  | fuel + 1, l => do
    let l ← l.skipGap.dropStale
    let l := l.closeBlocks l.cursor.column
    match l.cursor.rest with
    | [] => l.finish
    | c :: rest =>
      let l ← l.readToken c rest
      runFor fuel l

end Lexer

/-- The tokens of a text. -/
def Token.scan (text : String) : Option (List Token) :=
  let cs := text.toList
  if cs.all isAllowed then Lexer.runFor (cs.length + 1) { cursor := { rest := cs } } else none

end Delegation.Yaml
