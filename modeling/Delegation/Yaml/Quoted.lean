import Delegation.Text.Hex
import Delegation.Yaml.Gap
/-!
# Quoted scalars

In single quotes, a quote is written twice and nothing else has a meaning of its own.  In double
quotes, a backslash starts an escape.
-/

namespace Delegation.Yaml.Quoted

/-- The character that an escape of one letter stands for. -/
def shortEscape? : Char → Option Char
  | '0' => some '\x00'
  | 'a' => some '\x07'
  | 'b' => some '\x08'
  | 't' | '\t' => some '\t'
  | 'n' => some '\n'
  | 'v' => some '\x0b'
  | 'f' => some '\x0c'
  | 'r' => some '\r'
  | 'e' => some '\x1b'
  | ' ' => some ' '
  | '\x22' => some '\x22'
  | '/' => some '/'
  | '\x5c' => some '\x5c'
  | 'N' => some '\u0085'
  | '_' => some '\u00a0'
  | 'L' => some '\u2028'
  | 'P' => some '\u2029'
  | _ => none

/-- The number of digits after the letter of an escape. -/
def escapeWidth? : Char → Option Nat
  | 'x' => some 2
  | 'u' => some 4
  | 'U' => some 8
  | _ => none

/-- The character that an escape stands for, after its backslash, and the length of the escape. -/
def escape? : List Char → Option (Char × Nat)
  | [] => none
  | c :: rest =>
    match escapeWidth? c with
    | none => (shortEscape? c).map fun e => (e, 1)
    | some width =>
      let digits := rest.take width
      if digits.length < width then none
      else (Hex.toChar? digits).map fun e => (e, width + 1)

/-- How a word of a quoted scalar ends. -/
inductive WordEnd where
  /-- With a blank or a line break. -/
  | gap
  /-- With a line break after a backslash. -/
  | escapedBreak
  /-- With the closing quote. -/
  | quote
deriving DecidableEq, Repr

/-- The word at the cursor, up to a gap or the closing quote.  The text must not end.  Each round
moves over a character. -/
def wordFor (single : Bool) : Nat → List Char → Cursor → Option (List Char × WordEnd × Cursor)
  | 0, _, _ => none
  | fuel + 1, acc, c =>
    match c.rest with
    | [] => none
    | h :: rest =>
      if isBlank h || isBreak h then some (acc.reverse, .gap, c)
      else if single then
        if h = '\x27' then
          if rest.head? = some '\x27' then wordFor single fuel ('\x27' :: acc) (c.skip 2)
          else some (acc.reverse, .quote, c)
        else wordFor single fuel (h :: acc) (c.skip 1)
      else if h = '\x22' then some (acc.reverse, .quote, c)
      else if h = '\x5c' then
        if !rest.isEmpty && endsLine rest then
          some (acc.reverse, .escapedBreak, (c.skip 1).skipBreak.2)
        else
          match escape? rest with
          | none => none
          | some (e, n) => wordFor single fuel (e :: acc) (c.skip (n + 1))
      else wordFor single fuel (h :: acc) (c.skip 1)

/-- Read words and gaps up to the closing quote.  No line may look like one that separates
documents. -/
def scanFor (single : Bool) : Nat → List Char → Cursor → Option (List Char × Cursor)
  | 0, _, _ => none
  | fuel + 1, text, c =>
    if c.atDocumentMark then none
    else
      match wordFor single (c.rest.length + 1) [] c with
      | none => none
      | some (w, .quote, next) => some (text ++ w, next.skip 1)
      | some (w, stop, next) =>
        let start : Gap := { broken := stop == .escapedBreak }
        match Gap.scan 0 start next with
        | none => none
        | some (g, after) =>
          scanFor single fuel (text ++ w ++ g.text) after

/-- The quoted scalar at the cursor, which stands on the opening quote. -/
def scan (single : Bool) (c : Cursor) : Option (List Char × Cursor) :=
  scanFor single (c.rest.length + 1) [] (c.skip 1)

end Delegation.Yaml.Quoted
