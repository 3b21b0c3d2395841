import Delegation.LooseYaml.Block
import Delegation.LooseYaml.Property
import Delegation.LooseYaml.Quoted
/-!
# Reading tokens of loose YAML

Whether something is a key only shows at the colon after it.  So the lexer remembers, for each level
of brackets, the latest place that may turn out to start a key, and inserts the tokens for the start
of the key, and of the mapping if it is the first key, when the colon comes.

What follows a hyphen or a colon has to be indented more than the collection around it.  Therefore
these marks open a margin one column wide, which gives way to a collection that starts there.
-/

namespace Delegation.LooseYaml

open Yaml (Token Style)

/-- A place that may turn out to start a key. -/
structure Candidate where
  /-- Whether it has to be a key, because it is in the column of the keys around it. -/
  required : Bool
  /-- The number of tokens before it. -/
  position : Nat
  /-- The number of characters before it. -/
  index : Nat
  /-- Its line. -/
  line : Nat
  /-- Its column. -/
  column : Nat

/-- A margin that is in force, with the column that was in force around it. -/
structure Margin where
  /-- The column around it. -/
  around : Int
  /-- Whether it belongs to a collection, which gets a token for its end. -/
  isBlock : Bool

/-- A text as far as its tokens were read. -/
structure Lexer where
  /-- The place up to which the text was read. -/
  cursor : Cursor
  /-- The tokens. -/
  tokens : Array Token := #[]
  /-- The column in force, minus one if there is none. -/
  indent : Int := -1
  /-- The margins in force, the innermost first. -/
  margins : List Margin := []
  /-- The candidate outside of brackets or on the innermost level of them. -/
  candidate : Option Candidate := none
  /-- The candidates on the levels around that one. -/
  levels : List (Option Candidate) := []
  /-- Whether a key may start here. -/
  keyAllowed : Bool := true
  /-- Whether a brace or a question mark has shown that colons inside brackets need no mapping of
  their own. -/
  mappingShown : Bool := false
  /-- Whether the last colon inside brackets started a mapping of its own. -/
  mappingOpen : Bool := false
  /-- Where a colon needs no white space after it, inside brackets. -/
  adjacent : Nat := 0

namespace Lexer

/-- Whether the cursor is inside brackets. -/
def inFlow (l : Lexer) : Bool :=
  !l.levels.isEmpty

/-- Add a token. -/
def emit (l : Lexer) (t : Token) : Lexer :=
  { l with tokens := l.tokens.push t }

/-- Move to a place. -/
def moveTo (l : Lexer) (c : Cursor) : Lexer :=
  { l with cursor := c }

/-- Insert a token at a position. -/
def insert (l : Lexer) (position : Nat) (t : Token) : Lexer :=
  { l with tokens := l.tokens.insertIdxIfInBounds position t }

/-! ## Candidates for keys -/

/-- Forget candidates that are too far away for a colon to make them keys; inside brackets, none
is.  None of them may be required. -/
def dropStale (l : Lexer) : Option Lexer :=
  match l.candidate with
  | some k =>
    if !l.inFlow && (k.line < l.cursor.line || k.index + 1024 < l.cursor.index) then
      if k.required then none else some { l with candidate := none }
    else some l
  | none => some l

/-- Forget the innermost candidate, which may not be required. -/
def dropCandidate (l : Lexer) : Option Lexer :=
  match l.candidate with
  | some k => if k.required then none else some { l with candidate := none }
  | none => some l

/-- Remember the cursor as a candidate, if a key may start here. -/
def saveCandidate (l : Lexer) : Lexer :=
  if l.keyAllowed then
    { l with candidate := some {
      required := !l.inFlow && l.indent == l.cursor.column && l.margins.head?.any (·.isBlock)
      position := l.tokens.size
      index := l.cursor.index
      line := l.cursor.line
      column := l.cursor.column } }
  else l

/-! ## Indentation -/

/-- Let the innermost margin give way, if it belongs to no collection. -/
def yieldMargin (l : Lexer) : Lexer :=
  match l.margins with
  | m :: margins => if m.isBlock then l else { l with indent := m.around, margins := margins }
  | [] => l

/-- Start a collection in a column right of the one in force, with its token at a position. -/
def openBlock (l : Lexer) (column position : Nat) (t : Token) : Lexer :=
  if l.inFlow then l
  else
    let l := if l.indent ≤ column then l.yieldMargin else l
    if l.indent < column then
      { l.insert position t with indent := column, margins := ⟨l.indent, true⟩ :: l.margins }
    else l

/-- Open a margin of one column, if the innermost one belongs to a collection. -/
def openMargin (l : Lexer) : Lexer :=
  if !l.inFlow && l.margins.head?.any (·.isBlock) then
    { l with indent := l.indent + 1, margins := ⟨l.indent, false⟩ :: l.margins }
  else l

/-- End the margins right of a column. -/
def closeMarginsFor (column : Int) : List Margin → Lexer → Lexer
  | [], l => l
  | m :: margins, l =>
    if column < l.indent then
      let l := if m.isBlock then l.emit .blockEnd else l
      closeMarginsFor column margins { l with indent := m.around, margins := margins }
    else l

/-- End the margins right of a column; brackets protect what is inside them. -/
def closeMargins (l : Lexer) (column : Int) : Lexer :=
  if l.inFlow then l else closeMarginsFor column l.margins l

/-- End the innermost margins that belong to no collection. -/
def dropMarginsFor : List Margin → Lexer → Lexer
  | [], l => l
  | m :: margins, l =>
    if m.isBlock then l
    else dropMarginsFor margins { l with indent := m.around, margins := margins }

/-- End the innermost margins that belong to no collection. -/
def dropMargins (l : Lexer) : Lexer :=
  dropMarginsFor l.margins l

/-! ## Between tokens -/

/-- Skip white space, comments and line breaks; outside of brackets, a key may start on a new line.
A tab left of the column in force may only stand on a line without tokens.  Each round moves over
something. -/
def skipGapFor : Nat → Lexer → Option Lexer
  | 0, l => some l
  | fuel + 1, l =>
    match l.cursor.head? with
    | none => some l
    | some h =>
      if h = '\t' ∧ !l.margins.isEmpty ∧ l.cursor.fresh ∧ l.cursor.column < l.indent then
        (toLineEnd l.cursor).bind fun c => skipGapFor fuel (l.moveTo c)
      else if isBlank h then skipGapFor fuel (l.moveTo (l.cursor.skipBlanks 1))
      else if isBreak h then
        skipGapFor fuel
          { l with cursor := l.cursor.skipBreak, keyAllowed := l.keyAllowed || !l.inFlow }
      else if h = '#' then skipGapFor fuel (l.moveTo l.cursor.skipToBreak)
      else some l

/-- Skip white space, comments and line breaks. -/
def skipGap (l : Lexer) : Option Lexer :=
  skipGapFor (l.cursor.rest.length + 1) l

/-- Skip spaces, comments and line breaks after a question mark, of which there has to be something;
no tab may follow.  Each round moves over something. -/
def skipAfterKeyFor : Nat → (found : Bool) → Lexer → Option Lexer
  | 0, _, _ => none
  | fuel + 1, found, l =>
    let stop := if found then some l else none
    match l.cursor.head? with
    | none => stop
    | some h =>
      if h = ' ' then skipAfterKeyFor fuel true (l.moveTo (l.cursor.skipBlanks 1))
      else if isBreak h then
        skipAfterKeyFor fuel true
          { l with cursor := l.cursor.skipBreak, keyAllowed := l.keyAllowed || !l.inFlow }
      else if h = '#' then skipAfterKeyFor fuel found (l.moveTo l.cursor.skipToBreak)
      else if h = '\t' then none
      else stop

/-! ## Tokens -/

/-- A directive. -/
def readDirective (l : Lexer) : Option Lexer := do
  let l ← (l.closeMargins (-1)).dropCandidate
  let (t, c) ← Property.directive? l.cursor
  pure { l.emit t with cursor := c, keyAllowed := false }

/-- A line that separates documents; nothing may follow on the line that ends one. -/
def readDocumentMark (l : Lexer) (isStart : Bool) : Option Lexer := do
  let l ← (l.closeMargins (-1)).dropCandidate
  let c := l.cursor.skip 3
  if isStart then pure { l.emit .documentStart with cursor := c, keyAllowed := false }
  else pure { l.emit .documentEnd with cursor := ← toLineEnd c, keyAllowed := false }

/-- The number of brackets that may be nested. -/
def maxLevels : Nat := 255

/-- An opening bracket or brace. -/
def readOpening (l : Lexer) (t : Token) : Option Lexer := do
  let l := l.saveCandidate.openMargin
  if l.levels.length < maxLevels then
    let (_, c) ← skipSpacing true (l.cursor.skip 1)
    pure { l.emit t with
      cursor := c
      levels := l.candidate :: l.levels
      candidate := none
      keyAllowed := true
      mappingShown := l.mappingShown || t == .openMapping }
  else none

/-- End the mapping that a colon inside brackets has started. -/
def closeMapping (l : Lexer) : Lexer :=
  if l.mappingOpen then
    { l.emit .closeMapping with mappingOpen := false, mappingShown := false }
  else l

/-- A closing bracket or brace. -/
def readClosing (l : Lexer) (t : Token) : Option Lexer := do
  let l ← l.dropCandidate
  let l :=
    match l.levels with
    | [] => l
    | k :: levels => { l with candidate := k, levels := levels }
  let l := l.closeMapping
  let (_, c) ← skipSpacing true (l.cursor.skip 1)
  pure { l.emit t with
    cursor := c
    keyAllowed := false
    adjacent := if l.inFlow then c.index else l.adjacent }

/-- A comma between items. -/
def readSeparator (l : Lexer) : Option Lexer := do
  let l ← l.dropCandidate
  let l := l.closeMapping
  let (_, c) ← skipSpacing true (l.cursor.skip 1)
  pure { l.emit .separator with cursor := c, keyAllowed := true }

/-- Whether a hyphen in front of an item follows. -/
def startsItem : List Char → Bool
  | '-' :: rest => endsWord rest
  | _ => false

/-- A hyphen in front of an item. -/
def readItem (l : Lexer) : Option Lexer := do
  if l.inFlow || !l.keyAllowed then none
  else
    let l := l.openBlock l.cursor.column l.tokens.size .blockSequence
    let (s, c) ← skipSpacing true (l.cursor.skip 1)
    if s.tabs && startsItem c.rest then none
    else
      let (_, c) ← skipSpacing false c
      let l := l.moveTo c
      let l :=
        if !c.rest.isEmpty && (endsLine c.rest || startsFlowMark c.rest) then l.openMargin else l
      let l ← l.dropCandidate
      pure { l.emit .item with keyAllowed := true }

/-- A question mark in front of a key. -/
def readKey (l : Lexer) : Option Lexer := do
  if !l.inFlow && !l.keyAllowed then none
  else
    let l :=
      if l.inFlow then { l with mappingShown := true }
      else l.openBlock l.cursor.column l.tokens.size .blockMapping
    let l ← l.dropCandidate
    let l := { l with cursor := l.cursor.skip 1, keyAllowed := !l.inFlow }
    let l ← skipAfterKeyFor (l.cursor.rest.length + 1) false l
    pure (l.emit .key)

/-- What is left after a colon in front of a value: a tab may not be all that parts it from a
word. -/
def afterColon (c : Cursor) : Option Cursor :=
  if c.head? = some '\t' then do
    let (s, c) ← skipSpacing true c
    if !s.spaces && c.head?.any isNameChar then none else some c
  else some c

/-- A colon in front of a value. -/
def readValue (l : Lexer) : Option Lexer := do
  let needsMapping := l.inFlow && !l.mappingShown
  let start := l.cursor
  let c ← afterColon (start.skip 1)
  let l := { l with cursor := c, mappingOpen := needsMapping }
  match l.candidate with
  | some k =>
    if needsMapping && k.line < start.line then none
    else
      let l := l.insert k.position .key
      let l := if needsMapping then l.insert k.position .openMapping else l
      let l := (l.openBlock k.column k.position .blockMapping).openMargin
      pure { l.emit .value with candidate := none, keyAllowed := false }
  | none =>
    let l := if needsMapping then l.emit .openMapping else l
    if !l.inFlow && !l.keyAllowed then none
    else
      let l := (l.openBlock start.column l.tokens.size .blockMapping).openMargin
      pure { l.emit .value with keyAllowed := !l.inFlow }

/-- A reference to a node, or a name for one. -/
def readName (l : Lexer) (t : List Char → Token) : Option Lexer := do
  let l := l.saveCandidate
  let (name, c) ← Property.name? l.cursor
  pure { l.emit (t name) with cursor := c, keyAllowed := false }

/-- A tag. -/
def readTag (l : Lexer) : Option Lexer := do
  let l := l.saveCandidate
  let (t, c) ← Property.tag? l.inFlow l.cursor
  pure { l.emit t with cursor := c, keyAllowed := false }

/-- A scalar without quotes; if it ends with a line break, a key may start after it. -/
def readPlain (l : Lexer) : Option Lexer := do
  let l := l.saveCandidate.dropMargins
  let (text, c) ← Plain.scan l.inFlow (l.indent + 1) l.cursor
  pure { l.emit (.scalar .plain text) with cursor := c, keyAllowed := c.fresh }

/-- A scalar of indented lines. -/
def readBlock (l : Lexer) (literal : Bool) : Option Lexer := do
  let l := l.saveCandidate.dropMargins
  let (text, c) ← Block.scan literal l.indent l.cursor
  let style : Style := if literal then .literal else .folded
  pure { l.emit (.scalar style text) with cursor := c, keyAllowed := true }

/-- A scalar in quotes.  Inside brackets, a colon right after it needs no white space. -/
def readQuoted (l : Lexer) (single : Bool) : Option Lexer := do
  let l := l.saveCandidate
  let (text, c) ← Quoted.scan single l.inFlow l.indent l.cursor
  let l ← { l with cursor := c, keyAllowed := false }.skipGap
  pure { l.emit (.scalar .quoted text) with adjacent := l.cursor.index }

/-- Whether a colon in front of a value stands before the given characters. -/
def isValueMark (l : Lexer) (rest : List Char) : Bool :=
  endsWord rest || (l.inFlow && (startsFlowMark rest || l.cursor.index == l.adjacent))

/-- The token that starts with a character. -/
def readToken (l : Lexer) (c : Char) (rest : List Char) : Option Lexer :=
  if l.cursor.column = 0 ∧ c = '%' then l.readDirective
  else if l.cursor.atDocumentMark then l.readDocumentMark (c == '-')
  else if l.cursor.column < l.indent then none
  else if c = '[' then l.readOpening .openSequence
  else if c = '\x7b' then l.readOpening .openMapping
  else if c = ']' then l.readClosing .closeSequence
  else if c = '\x7d' then l.readClosing .closeMapping
  else if c = ',' then l.readSeparator
  else if c = '-' ∧ endsWord rest then l.readItem
  else if c = '?' ∧ endsWord rest then l.readKey
  else if c = ':' ∧ l.isValueMark rest then l.readValue
  else if c = '*' then l.readName .reference
  else if c = '&' then l.readName .anchor
  else if c = '!' then l.readTag
  else if c = '|' ∧ !l.inFlow then l.readBlock true
  else if c = '>' ∧ !l.inFlow then l.readBlock false
  else if c = '\x27' then l.readQuoted true
  else if c = '\x22' then l.readQuoted false
  else if c = '%' ∨ c = '@' ∨ c = '\x60' then none
  else l.readPlain

/-- The end of the text: no candidate may be required. -/
def finish (l : Lexer) : Option (List Token) :=
  if (l.candidate :: l.levels).any fun k => k.any (·.required) then none
  else some (l.closeMargins (-1)).tokens.toList

/-- Read the tokens that are left.  Each round moves over a character. -/
def runFor : Nat → Lexer → Option (List Token)
  | 0, _ => none
  | fuel + 1, l => do
    let l ← (← l.skipGap).dropStale
    let l := l.closeMargins l.cursor.column
    match l.cursor.rest with
    | [] => l.finish
    | c :: rest =>
      let l ← l.readToken c rest
      runFor fuel l

end Lexer

/-- The tokens of a text, which ends at the first character without a sign of its own. -/
def scan (text : String) : Option (List Token) :=
  let cs := text.toList.takeWhile (· != '\x00')
  Lexer.runFor (cs.length + 1) { cursor := { rest := cs } }

end Delegation.LooseYaml
