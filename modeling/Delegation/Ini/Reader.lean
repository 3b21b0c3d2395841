import Delegation.Layers.Table
import Delegation.Number.Reading
import Delegation.Text.Blank
import Delegation.Text.Hex
/-!
# Reading INI

A text is a sequence of sections in brackets, comments, and keys with their values.  Everything is a
text.  Keys before the first section stand in the table of all, and each section is a table in
it.  Comments have to start a line.
-/

namespace Delegation.Ini

/-- The characters that an escape of one letter stands for; a line break stands for nothing. -/
def shortEscape (c : Char) : List Char :=
  if c = '0' then ['\x00']
  else if c = 'a' then ['\x07']
  else if c = 'b' then ['\x08']
  else if c = 't' then ['\t']
  else if c = 'r' then ['\r']
  else if c = 'n' then ['\n']
  else if c = '\n' then []
  else [c]

/-- The character of an escape with a code: four characters, the first of which may be a plus
sign. -/
def codedEscape? (code : List Char) : Option Char :=
  (plusNatOfText? 16 code).bind Hex.charOfCode?

/-- The text before one of the stops, with its escapes resolved, and what is left from the stop on;
the text may go on to the end only if that is allowed. -/
def readUntil (stops : List Char) (endStops : Bool) : List Char → Option (List Char × List Char)
  | [] => if endStops then some ([], []) else none
  | '\x5c' :: 'x' :: a :: b :: c :: d :: rest =>
    match codedEscape? [a, b, c, d] with
    | some e => (readUntil stops endStops rest).map fun r => (e :: r.1, r.2)
    | none => none
  | '\x5c' :: c :: rest =>
    if c = 'x' then none
    else (readUntil stops endStops rest).map fun r => (shortEscape c ++ r.1, r.2)
  | c :: rest =>
    if stops.contains c then some ([], c :: rest)
    else if c = '\x5c' then none
    else (readUntil stops endStops rest).map fun r => (c :: r.1, r.2)

/-- The text up to the end of the line, and what is left. -/
def readLine (cs : List Char) : Option (List Char × List Char) :=
  readUntil ['\n', '\r'] true cs

/-- A text without the white space at its ends. -/
def trimmed (cs : List Char) : String :=
  String.ofList (dropBlanksRight (dropBlanks cs))

/-- The value after an equals sign or a colon, and what is left.  A value may start with a part in
quotes, which may hold line breaks. -/
def value? (cs : List Char) : Option (String × List Char) :=
  let cs := cs.dropWhile fun c => isBlank c && c != '\n' && c != '\r'
  match cs with
  | [] => some ("", [])
  | q :: rest =>
    if q = '\x22' ∨ q = '\x27' then do
      let (inside, rest) ← readUntil [q] false rest
      let (after, rest) ← readLine (rest.drop 1)
      pure (trimmed (inside ++ after), rest)
    else (readLine cs).map fun r => (trimmed r.1, r.2)

/-- What is left after white space, and whether it starts a line. -/
def skipBlanks (fresh : Bool) : List Char → Bool × List Char
  | [] => (fresh, [])
  | c :: rest => if isBlank c then skipBlanks (c == '\n') rest else (fresh, c :: rest)

/-- A text as far as it was read. -/
structure Document where
  /-- The fields of the table of all that are texts. -/
  general : List (String × Raw) := []
  /-- The sections, the latest first, each with its fields in order. -/
  sections : List (String × List (String × Raw)) := []
  /-- The key that waits for its value, empty if there is none. -/
  key : String := ""

/-- Give the key that waits its value. -/
def Document.add (d : Document) (v : String) : Document :=
  match d.sections with
  | [] => { d with general := d.general ++ [(d.key, .text v)], key := "" }
  | (name, fields) :: rest =>
    { d with sections := (name, fields ++ [(d.key, .text v)]) :: rest, key := "" }

/-- What stands next, and what is left; also whether that starts a line. -/
def Document.step? (d : Document) (fresh : Bool) (c : Char) (rest : List Char) :
    Option (Document × Bool × List Char) :=
  if c = ';' ∨ c = '#' then
    if fresh then some (d, true, (rest.dropWhile (· != '\n')).drop 1) else none
  else if c = '[' then
    (readUntil [']'] false rest).map fun r =>
      ({ d with sections := (trimmed r.1, []) :: d.sections }, false, r.2.drop 1)
  else if c = '=' ∨ c = ':' then
    if d.key.isEmpty then none
    else (value? rest).map fun r => (d.add r.1, false, r.2)
  else
    (readUntil ['=', ':'] false (c :: rest)).map fun r =>
      ({ d with key := trimmed r.1 }, false, r.2)

/-- All that is left.  Each round takes a character. -/
def Document.readFor : Nat → Document → Bool → List Char → Option Document
  | 0, _, _, _ => none
  | fuel + 1, d, fresh, cs =>
    match skipBlanks fresh cs with
    | (_, []) => some d
    | (fresh, c :: rest) =>
      match d.step? fresh c rest with
      | some (d, fresh, rest) => readFor fuel d fresh rest
      | none => none

/-- The table of all: of sections and keys of one name the last one counts. -/
def Document.fields (d : Document) : Fields :=
  Fields.ofList (d.general ++
    d.sections.reverse.map fun s => (s.1, .table (Fields.ofList s.2)))

/-- The table that a text writes. -/
def parse? (text : String) : Option Fields :=
  let cs := text.toList
  (Document.readFor (cs.length + 1) {} true cs).map Document.fields

end Delegation.Ini
