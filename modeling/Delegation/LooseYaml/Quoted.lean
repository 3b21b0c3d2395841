import Delegation.LooseYaml.Plain
import Delegation.Yaml.Quoted
/-!
# Quoted scalars of loose YAML

In single quotes, a quote is written twice and nothing else has a meaning of its own.  In double
quotes, a backslash starts an escape.  The lines of a quoted scalar have to be indented like the
collection around it.
-/

namespace Delegation.LooseYaml.Quoted

/-- The word at the cursor, up to white space, the closing quote or the end of the text, and whether
it ends with a line break after a backslash.  Each round moves over a character. -/
def wordFor (single : Bool) : Nat → List Char → Cursor → Option (List Char × Bool × Cursor)
  | 0, acc, c => some (acc.reverse, false, c)
  | fuel + 1, acc, c =>
    match c.rest with
    | [] => some (acc.reverse, false, c)
    | h :: rest =>
      if isBlank h || isBreak h then some (acc.reverse, false, c)
      else if single then
        if h = '\x27' then
          if rest.head? = some '\x27' then wordFor single fuel ('\x27' :: acc) (c.skip 2)
          else some (acc.reverse, false, c)
        else wordFor single fuel (h :: acc) (c.skip 1)
      else if h = '\x22' then some (acc.reverse, false, c)
      else if h = '\x5c' then
        if !rest.isEmpty && endsLine rest then
          some (acc.reverse, true, (c.skip 1).skipBreak)
        else
          match Yaml.Quoted.escape? rest with
          | none => none
          | some (e, n) => wordFor single fuel (e :: acc) (c.skip (n + 1))
      else wordFor single fuel (h :: acc) (c.skip 1)

/-- Move over blanks and line breaks; `lines` says whether there was a line break already.  Tabs
left of the given column are refused once there was one.  Each round moves over a character. -/
def skipFor (column : Int) : Nat → (lines : Bool) → Fold → Cursor → Option (Bool × Fold × Cursor)
  | 0, lines, f, c => some (lines, f, c)
  | fuel + 1, lines, f, c =>
    match c.head? with
    | none => some (lines, f, c)
    | some h =>
      if isBlank h then
        if !lines then
          skipFor column fuel lines { f with blanks := f.blanks ++ [h] } (c.skipBlanks 1)
        else if h = '\t' ∧ c.column < column then none
        else skipFor column fuel lines f (c.skipBlanks 1)
      else if isBreak h then
        let f := if lines then { f with more := f.more + 1 } else { f with broken := true }
        skipFor column fuel true f c.skipBreak
      else some (lines, f, c)

/-- Read words and what is between them up to the closing quote.  No line may look like one that
separates documents, and none may start left of the given column. -/
def scanFor (single : Bool) (column : Int) : Nat → List Char → Cursor → Option (List Char × Cursor)
  | 0, _, _ => none
  | fuel + 1, text, c =>
    if c.atDocumentMark || c.rest.isEmpty || c.column < column then none
    else
      match wordFor single (c.rest.length + 1) [] c with
      | none => none
      | some (w, escapedBreak, c) =>
        if c.head? = some (if single then '\x27' else '\x22') then some (text ++ w, c.skip 1)
        else
          match skipFor column (c.rest.length + 1) escapedBreak {} c with
          | none => none
          | some (lines, f, c) => scanFor single column fuel (text ++ w ++ f.text lines) c

/-- Whether something may follow a quoted scalar that started on a line. -/
def mayFollow (flow : Bool) (line : Nat) (c : Cursor) : Bool :=
  match c.head? with
  | none => true
  | some h =>
    isBreak h || (flow && [',', '\x7d', ']', ':'].contains h) ||
      (!flow && h == ':' && c.line == line)

/-- The quoted scalar at the cursor, which stands on the opening quote, inside brackets or not. -/
def scan (single flow : Bool) (column : Int) (c : Cursor) : Option (List Char × Cursor) := do
  let (text, next) ← scanFor single column (c.rest.length + 1) [] (c.skip 1)
  let (_, next) ← skipSpacing true next
  if mayFollow flow c.line next then some (text, next) else none

end Delegation.LooseYaml.Quoted
