import Delegation.Layers.Table
import Delegation.Ron.Scalar
/-!
# Reading RON

A text is one value, possibly after attributes.  What has the form of a structure becomes a table,
what has the form of a tuple becomes a list, and names in front of either do not count.  Keys of
maps have to be texts or characters.
-/

namespace Delegation.Ron

/-! ## White space and comments -/

/-- The characters that count as white space. -/
def isSpace (c : Char) : Bool :=
  c == ' ' || c == '\n' || c == '\t' || c == '\r'

/-- What is left after the end of a comment of several lines; such comments nest. -/
def afterComment? : Nat → List Char → Option (List Char)
  | level, '/' :: '*' :: rest => afterComment? (level + 1) rest
  | level, '*' :: '/' :: rest => if level = 0 then some rest else afterComment? (level - 1) rest
  | level, _ :: rest => afterComment? level rest
  | _, [] => none

/-- What is left after white space and comments; a slash that starts no comment is refused.  Each
round takes a character. -/
def skipFor : Nat → List Char → Option (List Char)
  | 0, cs => some cs
  | fuel + 1, cs =>
    match cs with
    | '/' :: '/' :: rest => skipFor fuel (rest.dropWhile (· != '\n'))
    | '/' :: '*' :: rest => (afterComment? 0 rest).bind (skipFor fuel)
    | '/' :: _ => none
    | c :: rest => if isSpace c then skipFor fuel rest else some cs
    | [] => some []

/-- What is left after white space and comments. -/
def skip (cs : List Char) : Option (List Char) :=
  skipFor (cs.length + 1) cs

/-- What is left after a comma with white space around it, and whether there was one. -/
def comma (cs : List Char) : Option (Bool × List Char) := do
  match ← skip cs with
  | ',' :: rest => pure (true, ← skip rest)
  | rest => pure (false, rest)

/-! ## Attributes -/

/-- What is left after words that follow each other with white space between them. -/
def afterAll : List String → List Char → Option (List Char)
  | [], cs => some cs
  | word :: words, cs => do
    if word.toList.isPrefixOf cs then afterAll words (← skip (cs.drop word.length)) else none

/-- The extensions of the format. -/
def extensions : List String :=
  ["unwrap_newtypes", "implicit_some", "unwrap_variant_newtypes"]

/-- What is left after the names of extensions.  Each round takes a name. -/
def afterNames : Nat → List Char → Option (List Char)
  | 0, _ => none
  | fuel + 1, cs => do
    let (name, rest) ← name? cs
    if extensions.contains name then
      let (more, rest) ← comma rest
      let goesOn := rest.head?.any isNameChar
      if more && goesOn then afterNames fuel rest
      else if goesOn then none
      else pure rest
    else none

/-- What is left after attributes.  Each round takes an attribute. -/
def afterAttributes : Nat → List Char → Option (List Char)
  | 0, _ => none
  | fuel + 1, cs =>
    if cs.head? = some '#' then do
      let rest ← afterAll ["#", "!", "[", "enable", "("] cs
      let rest ← afterNames rest.length rest
      let rest ← afterAll [")", "]"] (← skip rest)
      afterAttributes fuel rest
    else some cs

/-! ## Values -/

/-- The number of levels that values may be nested; a list, a map or an option is a level, and so is
each item, key and value in it. -/
def maxDepth : Nat := 128

/-- The levels that are left inside of one more level. -/
def enter : Nat → Option Nat
  | 0 => none
  | depth + 1 => some depth

/-- Whether some characters after an opening parenthesis start with a name and a colon. -/
def startsField (cs : List Char) : Option Bool :=
  match name? cs with
  | none => some false
  | some (_, rest) => do
    match ← skip rest with
    | [] => none
    | c :: _ => pure (c == ':')

/-- A field while a map is read. -/
structure Entry where
  /-- Whether its key is a character. -/
  single : Bool
  /-- The text of its key. -/
  name : String
  /-- Its value. -/
  value : Raw

/-- The fields of entries.  Of keys with one text, a text counts more than a character, and then the
last one counts. -/
def fieldsOf (entries : List Entry) : Fields :=
  Fields.ofList ((entries.filter (·.single) ++ entries.filter (!·.single)).map fun e =>
    (e.name, e.value))

/-- The entry of a key and its value, if the key may be one. -/
def Entry.of? (single : Bool) (key value : Raw) : Option Entry :=
  match key with
  | .text name => some ⟨single, name, value⟩
  | _ => none

mutual

/-- A value. -/
def readValue : Nat → (depth : Nat) → List Char → Option (Raw × List Char)
  | 0, _, _ => none
  | fuel + 1, depth, cs => do
    match word? "true" cs, word? "false" cs, word? "None" cs, word? "Some" cs with
    | some rest, _, _, _ => pure (.bool true, rest)
    | _, some rest, _, _ => pure (.bool false, rest)
    | _, _, some rest, _ => pure (.absent, rest)
    | _, _, _, some rest => readOption fuel depth (← skip rest)
    | _, _, _, _ =>
      match cs with
      | '(' :: ')' :: rest => pure (.absent, rest)
      | _ =>
        match special? cs, name? cs with
        | some (x, rest), _ => pure (.float x, rest)
        | _, some (_, rest) =>
          match ← skip rest with
          | '(' :: rest => readParens fuel depth rest
          | rest => pure (.absent, rest)
        | _, _ => readUnnamed fuel depth cs

/-- A value that starts with no name. -/
def readUnnamed : Nat → (depth : Nat) → List Char → Option (Raw × List Char)
  | 0, _, _ => none
  | _, _, [] => none
  | fuel + 1, depth, c :: rest => do
    if c = '(' then readParens fuel depth rest
    else if c = '[' then
      let depth ← enter depth
      let (items, rest) ← readItems fuel depth ']' rest
      pure (.list items, rest)
    else if c = '\x7b' then
      let depth ← enter depth
      let (entries, rest) ← readEntries fuel depth '\x7d' rest
      pure (.table (fieldsOf entries), rest)
    else if c = '\x22' ∨ c = 'r' then
      let (s, rest) ← text? (c :: rest)
      pure (.text s, rest)
    else if c = '\x27' then
      let (d, rest) ← char? rest
      pure (.text (String.ofList [d]), rest)
    else if c = '.' then
      let (x, rest) ← float? (c :: rest)
      pure (.float x, rest)
    else if isDecimalDigit c ∨ c = '+' ∨ c = '-' then number? (c :: rest)
    else none

/-- The value of an option, after the word for it. -/
def readOption : Nat → (depth : Nat) → List Char → Option (Raw × List Char)
  | 0, _, _ => none
  | fuel + 1, depth, cs => do
    match cs with
    | '(' :: rest =>
      let depth ← enter depth
      let (v, rest) ← readValue fuel depth (← skip rest)
      match ← comma rest with
      | (_, ')' :: rest) => pure (v, rest)
      | _ => none
    | _ => none

/-- A structure or a tuple after its opening parenthesis. -/
def readParens : Nat → (depth : Nat) → List Char → Option (Raw × List Char)
  | 0, _, _ => none
  | fuel + 1, depth, cs => do
    let cs ← skip cs
    let fields ← startsField cs
    let depth ← enter depth
    if fields then
      let (entries, rest) ← readEntries fuel depth ')' cs
      pure (.table (fieldsOf entries), rest)
    else
      let (items, rest) ← readItems fuel depth ')' cs
      pure (.list items, rest)

/-- Items up to and with the closing bracket. -/
def readItems : Nat → (depth : Nat) → Char → List Char → Option (List Raw × List Char)
  | 0, _, _, _ => none
  | fuel + 1, depth, close, cs => do
    let cs ← skip cs
    if cs.head? = some close then pure ([], cs.drop 1)
    else
      let inner ← enter depth
      let (item, rest) ← readValue fuel inner cs
      let (more, rest) ← comma rest
      if more then
        let (items, rest) ← readItems fuel depth close rest
        pure (item :: items, rest)
      else if rest.head? = some close then pure ([item], rest.drop 1)
      else none

/-- Entries up to and with the closing bracket.  Keys are names in structures and values in maps. -/
def readEntries : Nat → (depth : Nat) → Char → List Char → Option (List Entry × List Char)
  | 0, _, _, _ => none
  | fuel + 1, depth, close, cs => do
    let cs ← skip cs
    if cs.head? = some close then pure ([], cs.drop 1)
    else
      let inner ← enter depth
      let (key, rest) ←
        if close = ')' then (name? cs).map fun r => (Raw.text r.1, r.2)
        else readValue fuel inner cs
      match ← skip rest with
      | ':' :: rest =>
        let (v, rest) ← readValue fuel inner (← skip rest)
        let entry ← Entry.of? (cs.head? == some '\x27') key v
        let (more, rest) ← comma rest
        if more then
          let (entries, rest) ← readEntries fuel depth close rest
          pure (entry :: entries, rest)
        else if rest.head? = some close then pure ([entry], rest.drop 1)
        else none
      | _ => none

end

/-- The value that a text writes. -/
def parse? (text : String) : Option Raw := do
  let cs := text.toList
  let body ← afterAttributes (cs.length + 1) (← skip cs)
  let (v, rest) ← readValue (4 * cs.length + 4) maxDepth body
  if (← skip rest).isEmpty then pure v else none

end Delegation.Ron
