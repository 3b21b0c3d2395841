import Delegation.Yaml.Node
import Delegation.Yaml.Token.Lexer
/-!
# Documents from tokens

A parser takes the tokens that are left and gives back a node with the tokens that are left after
it.  It knows which names stand for nodes so far.  A collection is as deep as there are tokens at
most, so twice their number is enough fuel.
-/

namespace Delegation.Yaml

namespace Parser

/-- What is known while a document is read. -/
structure Scope where
  /-- The short forms of tags, by handle. -/
  shorthands : List (List Char × List Char)
  /-- The numbers of names, the latest first. -/
  names : List (List Char × Nat) := []

/-- The short forms that need no directive. -/
def Scope.defaults : List (List Char × List Char) :=
  [(['!'], ['!']), (['!', '!'], "tag:yaml.org,2002:".toList)]

/-- The number of names that differ. -/
def Scope.count (s : Scope) : Nat :=
  ((s.names.map Prod.fst).eraseDups).length

/-- Give a name to the next node: the number of names that are known so far. -/
def Scope.declare (s : Scope) (name : List Char) : Nat × Scope :=
  (s.count, { s with names := (name, s.count) :: s.names })

/-- The full form of a tag. -/
def Scope.tag? (s : Scope) (handle suffix : List Char) : Option String :=
  if handle.isEmpty then some (String.ofList suffix)
  else (s.shorthands.lookup handle).map fun stem => String.ofList (stem ++ suffix)

/-- A reader of what is at the start of some tokens. -/
abbrev Reader (α : Type) := Scope → List Token → Option (α × Scope × List Token)

/-- The tag and the name in front of a node, in either order. -/
def label : Reader Label := fun s ts =>
  match ts with
  | .anchor a :: .tag h t :: rest => do
    let tag ← s.tag? h t
    let (n, s) := s.declare a
    pure (⟨some n, some tag⟩, s, rest)
  | .tag h t :: .anchor a :: rest => do
    let tag ← s.tag? h t
    let (n, s) := s.declare a
    pure (⟨some n, some tag⟩, s, rest)
  | .anchor a :: rest =>
    let (n, s) := s.declare a
    some (⟨some n, none⟩, s, rest)
  | .tag h t :: rest => do
    let tag ← s.tag? h t
    pure (⟨none, some tag⟩, s, rest)
  | rest => some ({}, s, rest)

/-- Whether nothing is written for an item: the next token is not the start of a node. -/
def isMissing (stops : List Token) : List Token → Bool
  | [] => false
  | t :: _ => stops.contains t

mutual

/-- A node.  Collections by indentation may be excluded, and so may be items without a token for
the start of their sequence. -/
def node : Nat → (block indentless : Bool) → Reader Node
  | 0, _, _ => fun _ _ => none
  | fuel + 1, block, indentless => fun s ts =>
    match ts with
    | .reference name :: rest => (s.names.lookup name).map fun n => (.reference n, s, rest)
    | _ => do
      let (l, s, ts) ← label s ts
      match ts with
      | .item :: _ =>
        if indentless then
          let (items, s, rest) ← looseItems fuel s ts
          pure (.sequence l items, s, rest)
        else empty l s ts
      | .scalar style text :: rest => pure (.scalar l style (String.ofList text), s, rest)
      | .openSequence :: rest =>
        let (items, s, rest) ← flowItems fuel true s rest
        pure (.sequence l items, s, rest)
      | .openMapping :: rest =>
        let (entries, s, rest) ← flowEntries fuel true s rest
        pure (.mapping l entries, s, rest)
      | .blockSequence :: rest =>
        if block then
          let (items, s, rest) ← items fuel s rest
          pure (.sequence l items, s, rest)
        else empty l s ts
      | .blockMapping :: rest =>
        if block then
          let (entries, s, rest) ← entries fuel s rest
          pure (.mapping l entries, s, rest)
        else empty l s ts
      | _ => empty l s ts

/-- A node of which only the tag or the name is written. -/
def empty (l : Label) : Reader Node := fun s ts =>
  if l.number.isSome || l.tag.isSome then some (.scalar l .plain "", s, ts) else none

/-- A node, or nothing in front of one of the given tokens. -/
def nodeUnless (stops : List Token) : Nat → (block indentless : Bool) → Reader Node
  | 0, _, _ => fun _ _ => none
  | fuel + 1, block, indentless => fun s ts =>
    if isMissing stops ts then some (.blank, s, ts) else node fuel block indentless s ts

/-- The items of a sequence by indentation, up to its end. -/
def items : Nat → Reader (List Node)
  | 0 => fun _ _ => none
  | fuel + 1 => fun s ts =>
    match ts with
    | .item :: rest => do
      let (i, s, rest) ← nodeUnless [.item, .blockEnd] fuel true false s rest
      let (more, s, rest) ← items fuel s rest
      pure (i :: more, s, rest)
    | .blockEnd :: rest => some ([], s, rest)
    | _ => none

/-- Items without a token for the end of their sequence. -/
def looseItems : Nat → Reader (List Node)
  | 0 => fun _ _ => none
  | fuel + 1 => fun s ts =>
    match ts with
    | .item :: rest => do
      let (i, s, rest) ← nodeUnless [.item, .key, .value, .blockEnd] fuel true false s rest
      let (more, s, rest) ← looseItems fuel s rest
      pure (i :: more, s, rest)
    | _ => some ([], s, ts)

/-- The value of an entry by indentation, if it has one. -/
def entryValue : Nat → Reader Node
  | 0 => fun _ _ => none
  | fuel + 1 => fun s ts =>
    match ts with
    | .value :: rest => nodeUnless [.key, .value, .blockEnd] fuel true true s rest
    | _ => some (.blank, s, ts)

/-- The entries of a mapping by indentation, up to its end. -/
def entries : Nat → Reader (List (Node × Node))
  | 0 => fun _ _ => none
  | fuel + 1 => fun s ts =>
    match ts with
    | .key :: rest => do
      let (k, s, rest) ← nodeUnless [.key, .value, .blockEnd] fuel true true s rest
      let (v, s, rest) ← entryValue fuel s rest
      let (more, s, rest) ← entries fuel s rest
      pure ((k, v) :: more, s, rest)
    | .blockEnd :: rest => some ([], s, rest)
    | _ => none

/-- The value of an entry inside brackets that end with the given token, if it has one. -/
def flowValue (close : Token) : Nat → Reader Node
  | 0 => fun _ _ => none
  | fuel + 1 => fun s ts =>
    match ts with
    | .value :: rest => nodeUnless [.separator, close] fuel false false s rest
    | _ => some (.blank, s, ts)

/-- The items of a sequence in brackets, up to the closing one; in front of each item but the first
stands a comma.  An item that starts with a key is a mapping with one entry. -/
def flowItems : Nat → (first : Bool) → Reader (List Node)
  | 0, _ => fun _ _ => none
  | fuel + 1, first => fun s ts =>
    match ts with
    | .closeSequence :: rest => some ([], s, rest)
    | _ => do
      let ts ←
        match first, ts with
        | true, ts => some ts
        | false, .separator :: rest => some rest
        | false, _ => none
      match ts with
      | .closeSequence :: rest => pure ([], s, rest)
      | .key :: rest =>
        let (k, s, rest) ←
          if isMissing [.value, .separator, .closeSequence] rest then
            some (Node.blank, s, rest.drop 1)
          else node fuel false false s rest
        let (v, s, rest) ← flowValue .closeSequence fuel s rest
        let (more, s, rest) ← flowItems fuel false s rest
        pure (.mapping {} [(k, v)] :: more, s, rest)
      | _ =>
        let (i, s, rest) ← node fuel false false s ts
        let (more, s, rest) ← flowItems fuel false s rest
        pure (i :: more, s, rest)

/-- The entries of a mapping in braces, up to the closing one; in front of each entry but the first
stands a comma.  A node that does not start with a key is a key without a value. -/
def flowEntries : Nat → (first : Bool) → Reader (List (Node × Node))
  | 0, _ => fun _ _ => none
  | fuel + 1, first => fun s ts =>
    match ts with
    | .closeMapping :: rest => some ([], s, rest)
    | _ => do
      let ts ←
        match first, ts with
        | true, ts => some ts
        | false, .separator :: rest => some rest
        | false, _ => none
      match ts with
      | .closeMapping :: rest => pure ([], s, rest)
      | .key :: rest =>
        let (k, s, rest) ← nodeUnless [.value, .separator, .closeMapping] fuel false false s rest
        let (v, s, rest) ← flowValue .closeMapping fuel s rest
        let (more, s, rest) ← flowEntries fuel false s rest
        pure ((k, v) :: more, s, rest)
      | _ =>
        let (k, s, rest) ← node fuel false false s ts
        let (more, s, rest) ← flowEntries fuel false s rest
        pure ((k, .blank) :: more, s, rest)

end

/-! ## Documents -/

/-- The directives in front of a document.  Of each kind there may be one, and one for each handle;
the version has to be 1.1 or 1.2. -/
def directives : Bool → List (List Char × List Char) → List Token →
    Option (List (List Char × List Char) × List Token)
  | seen, known, .version major minor :: rest =>
    if seen || major != 1 || !(minor == 1 || minor == 2) then none
    else directives true known rest
  | seen, known, .shorthand handle stem :: rest =>
    if (known.lookup handle).isSome then none else directives seen ((handle, stem) :: known) rest
  | _, known, ts => some (known, ts)

/-- Whether the content of a document is missing after its start. -/
def isBare : List Token → Bool
  | [] => true
  | t :: _ => t == .documentStart || t == .documentEnd ||
    match t with
    | .version _ _ | .shorthand _ _ => true
    | _ => false

/-- A document whose start is marked. -/
def explicitDocument (ts : List Token) : Option (Node × List Token) := do
  let (known, ts) ← directives false [] ts
  match ts with
  | .documentStart :: rest =>
    if isBare rest then pure (.blank, rest)
    else
      let (root, _, rest) ← node (3 * rest.length + 3) true false ⟨known ++ Scope.defaults, []⟩ rest
      pure (root, rest)
  | _ => none

/-- Marks for the end of a document. -/
def skipEnds (ts : List Token) : List Token :=
  ts.dropWhile (· == .documentEnd)

/-- The documents that are left, each with a mark for its start. -/
def explicitDocuments : Nat → List Token → Option (List Node)
  | 0, _ => none
  | fuel + 1, ts =>
    match skipEnds ts with
    | [] => some []
    | ts => do
      let (root, rest) ← explicitDocument ts
      let more ← explicitDocuments fuel rest
      pure (root :: more)

/-- Whether a document starts without a mark. -/
def isImplicit : List Token → Bool
  | [] => false
  | .version _ _ :: _ | .shorthand _ _ :: _ | .documentStart :: _ => false
  | _ => true

/-- All documents.  The first one may start without a mark. -/
def documents (ts : List Token) : Option (List Node) := do
  if isImplicit ts then
    let (root, _, rest) ← node (3 * ts.length + 3) true false ⟨Scope.defaults, []⟩ ts
    let more ← explicitDocuments (rest.length + 1) rest
    pure (root :: more)
  else
    match ts with
    | [] => pure []
    | _ =>
      let (root, rest) ← explicitDocument ts
      let more ← explicitDocuments (rest.length + 1) rest
      pure (root :: more)

end Parser

/-- The documents of a text, if it is well-formed. -/
def documents? (text : String) : Option (List Node) :=
  (Token.scan text).bind Parser.documents

end Delegation.Yaml
