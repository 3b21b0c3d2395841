import Delegation.Exit
import Delegation.Layers.Environment
import Delegation.Number.Reading
import Delegation.Text.Alphanumeric
import Delegation.Text.Blank
import Delegation.Text.Quoted
/-!
# Assignments of environment variables

A text of lines `NAME=value`.  It sets variables that are not set yet.  A value may be quoted, and a
quoted value may go on over several lines; outside of single quotes, a dollar sign stands for the
value of a variable.  The first line that is not well-formed ends the text: the lines before it
count.
-/

namespace Delegation.Dotenv

/-! ## Lines -/

/-- Where a place in a text is. -/
inductive Place where
  /-- Outside of quotes. -/
  | bare
  /-- After white space outside of quotes. -/
  | space
  /-- After a backslash outside of quotes. -/
  | escape
  /-- Inside single quotes. -/
  | single
  /-- After a backslash inside single quotes. -/
  | singleEscape
  /-- Inside double quotes. -/
  | double
  /-- After a backslash inside double quotes. -/
  | doubleEscape
deriving DecidableEq, Repr

/-- The place after a quote or a backslash outside of quotes. -/
def Place.opened? (c : Char) : Option Place :=
  if c = '\x5c' then some .escape
  else if c = '\x22' then some .double
  else if c = '\x27' then some .single
  else none

/-- The place after a character. -/
def Place.next (p : Place) (c : Char) : Place :=
  match p with
  | .space => (opened? c).getD .bare
  | .escape => .bare
  | .bare =>
    if isBlank c && c != '\n' && c != '\r' then .space else (opened? c).getD .bare
  | .double => if c = '\x5c' then .doubleEscape else if c = '\x22' then .bare else .double
  | .doubleEscape => .double
  | .single => if c = '\x5c' then .singleEscape else if c = '\x27' then .bare else .single
  | .singleEscape => .single

/-- How a piece of a text ends. -/
inductive LineEnd where
  /-- At a place. -/
  | place (p : Place)
  /-- At a comment. -/
  | comment
deriving DecidableEq, Repr

/-- The characters of a line before a comment, and how it ends.  Only after white space does a
number sign start a comment. -/
def endOf (p : Place) : List Char → List Char × LineEnd
  | [] => ([], .place p)
  | c :: rest =>
    if p = .space ∧ c = '#' then ([], .comment)
    else
      let r := endOf (p.next c) rest
      (c :: r.1, r.2)

/-- The first line of a text with its line feed, and what is left. -/
def splitLine : List Char → List Char × List Char
  | [] => ([], [])
  | '\n' :: rest => (['\n'], rest)
  | c :: rest =>
    let r := splitLine rest
    (c :: r.1, r.2)

/-- A line without the line break at its end. -/
def withoutBreak (line : List Char) : List Char :=
  match line.reverse with
  | '\n' :: '\r' :: rest => rest.reverse
  | '\n' :: rest => rest.reverse
  | _ => line

/-- The next assignment of a text, which may go over several lines, and what is left; the outer
result is nothing at the end of the text, the inner one when the text ends too early.  Each round
takes a line. -/
def assignmentFor : Nat → Place → List Char → List Char → Option (Option (List Char) × List Char)
  | 0, _, _, _ => none
  | fuel + 1, p, before, cs =>
    match splitLine cs with
    | ([], _) => if p = .bare then none else some (none, [])
    | (line, rest) =>
      if (dropBlanks (before ++ line)).head? = some '#' then some (some [], rest)
      else
        match endOf p line with
        | (kept, .comment) => some (some (before ++ kept), rest)
        | (_, .place .bare) => some (some (withoutBreak (before ++ line)), rest)
        | (_, .place q) => assignmentFor fuel q (before ++ line) rest

/-- The next assignment of a text. -/
def assignment (cs : List Char) : Option (Option (List Char) × List Char) :=
  assignmentFor (cs.length + 1) .bare [] cs

/-! ## Values -/

/-- The variables that a value may refer to: those of the environment, then those that were
assigned before. -/
structure Scope where
  /-- The environment. -/
  env : Environment
  /-- The variables that were assigned, the latest first. -/
  assigned : Environment := []

/-- The value of a variable, empty if there is none. -/
def Scope.value (s : Scope) (name : List Char) : List Char :=
  let name := String.ofList name
  (((s.env.get? name).orElse fun _ => s.assigned.get? name).getD "").toList

/-- How a value is being read. -/
inductive Mode where
  /-- As it is written, outside or inside of double quotes. -/
  | text
  /-- After a backslash. -/
  | escape
  /-- Inside single quotes. -/
  | single
  /-- Inside the name of a variable. -/
  | name
  /-- Inside the name of a variable in braces. -/
  | braced
  /-- After the value. -/
  | after
deriving DecidableEq, Repr

/-- A value as far as it was read. -/
structure Reading where
  /-- The mode. -/
  mode : Mode := .text
  /-- Whether double quotes are open. -/
  quoted : Bool := false
  /-- The name of a variable as far as it was read. -/
  name : List Char := []
  /-- The value. -/
  output : List Char := []

namespace Reading

/-- Add a character to the value. -/
def push (r : Reading) (c : Char) : Reading :=
  { r with output := r.output ++ [c] }

/-- Add the value of the variable whose name was read. -/
def substitute (s : Scope) (r : Reading) : Reading :=
  { r with name := [], output := r.output ++ s.value r.name }

/-- Read a character as it is written. -/
def stepText (r : Reading) (c : Char) : Reading :=
  if c = '$' then { r with mode := .name }
  else if c = '\x22' then { r with quoted := !r.quoted }
  else if c = '\x5c' then { r with mode := .escape }
  else if r.quoted then r.push c
  else if c = '\x27' then { r with mode := .single }
  else if c = ' ' ∨ c = '\t' then { r with mode := .after }
  else r.push c

/-- Read a character after a backslash. -/
def stepEscape (r : Reading) (c : Char) : Option Reading :=
  let r := { r with mode := .text }
  if ['\x5c', '\x27', '\x22', '$', ' '].contains c then some (r.push c)
  else if c = 'n' then some (r.push '\n')
  else none

/-- Read a character that ends a name without braces: nothing in front of the character has a
meaning of its own, quotes included. -/
def stepName (s : Scope) (r : Reading) (c : Char) : Reading :=
  if c = '\x7b' ∧ r.name.isEmpty then { r with mode := .braced }
  else
    let r := r.substitute s
    if c = '$' then r else { r.push c with mode := .text }

/-- Read a character; nothing if it may not stand there, and no more characters count after a
comment has started. -/
def step (s : Scope) (r : Reading) (c : Char) : Option Reading :=
  match r.mode with
  | .after => if c = ' ' ∨ c = '\t' then some r else none
  | .escape => r.stepEscape c
  | .single => some (if c = '\x27' then { r with mode := .text } else r.push c)
  | .name =>
    if isAlphanumeric c then some { r with name := r.name ++ [c] } else some (r.stepName s c)
  | .braced =>
    if c != '\x7d' then some { r with name := r.name ++ [c] }
    else some { r.substitute s with mode := .text }
  | .text => some (r.stepText c)

/-- Read characters up to the end or to a comment. -/
def run (s : Scope) (r : Reading) : List Char → Option Reading
  | [] => some r
  | c :: rest =>
    if r.mode = .after ∧ c = '#' then some r
    else
      match r.step s c with
      | some r => run s r rest
      | none => none

/-- The value at the end; quotes and braces have to be closed. -/
def finish? (s : Scope) (r : Reading) : Option (List Char) :=
  if r.mode = .braced ∨ r.mode = .single ∨ r.quoted then none
  else some (r.substitute s).output

end Reading

/-- The value that some characters write. -/
def value? (s : Scope) (cs : List Char) : Option (List Char) :=
  (Reading.run s {} cs).bind (Reading.finish? s)

/-! ## Assignments -/

/-- Whether a name may start with a character. -/
def startsName (c : Char) : Bool :=
  c.isAlpha || c == '_'

/-- Whether a character may stand in a name. -/
def isNameChar (c : Char) : Bool :=
  c.isAlphanum || c == '_' || c == '.'

/-- The name at the start of some characters, and what is left after it and white space. -/
def name? (cs : List Char) : Option (List Char × List Char) :=
  match cs with
  | c :: _ =>
    if startsName c then some (cs.takeWhile isNameChar, dropBlanks (cs.dropWhile isNameChar))
    else none
  | [] => none

/-- What is left after an equals sign. -/
def afterEquals? : List Char → Option (List Char)
  | '=' :: rest => some rest
  | _ => none

/-- The name of an assignment and what is left after the equals sign.  The word `export` may stand
in front; it may also be the name itself. -/
def target? (cs : List Char) : Option (List Char × List Char) := do
  let (name, rest) ← name? cs
  if name = "export".toList ∧ (afterEquals? rest).isNone then
    let (name, rest) ← name? rest
    let rest ← afterEquals? rest
    pure (name, rest)
  else
    let rest ← afterEquals? rest
    pure (name, rest)

/-- What a line says: an assignment or nothing. -/
def line? (s : Scope) (line : List Char) : Option (Option (String × String) × Scope) :=
  let cs := dropBlanks (dropBlanksRight line)
  match cs with
  | [] => some (none, s)
  | '#' :: _ => some (none, s)
  | _ => do
    let (name, rest) ← target? cs
    let name := String.ofList name
    match dropBlanks rest with
    | [] => pure (some (name, ""), { s with assigned := (name, "") :: s.assigned })
    | '#' :: _ => pure (some (name, ""), { s with assigned := (name, "") :: s.assigned })
    | rest =>
      let value := String.ofList (← value? s rest)
      pure (some (name, value), { s with assigned := (name, value) :: s.assigned })

/-- Set a variable that is not set.  No variable can hold the character that ends texts outside. -/
def assign {ε : Type} (env : Environment) (name value : String) : Exit ε Environment :=
  if (env.get? name).isNone && value.contains '\x00' then
    .panicked ("failed to set environment variable \x60" ++ Quoted.encodeStrictly name ++
      "\x60 to \x60" ++ Quoted.encodeStrictly value ++
      "\x60: file name contained an unexpected NUL byte")
  else .returned (env.fill name value)

/-- Set the variables that a text assigns and that are not set yet.  Each round takes a line. -/
def applyFor {ε : Type} : Nat → Scope → List Char → Exit ε Environment
  | 0, s, _ => .returned s.env
  | fuel + 1, s, cs =>
    match assignment cs with
    | none => .returned s.env
    | some (none, _) => .returned s.env
    | some (some text, rest) =>
      match line? s text with
      | none => .returned s.env
      | some (none, s) => applyFor fuel s rest
      | some (some (name, value), s) =>
        (assign s.env name value).bind fun env => applyFor fuel { s with env := env } rest

/-- Set the variables that a text assigns and that are not set yet.  A byte order mark in front does
not count. -/
def apply {ε : Type} (text : String) (env : Environment) : Exit ε Environment :=
  let cs := text.toList
  let cs := if cs.head? = some '\ufeff' then cs.drop 1 else cs
  applyFor (cs.length + 1) { env := env } cs

end Delegation.Dotenv
