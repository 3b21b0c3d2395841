import Delegation.LooseYaml.Lexer
import Delegation.LooseYaml.Value
/-!
# Reading loose YAML

The documents that a list of tokens writes.  Where a node is missing, it is nothing, or an empty
text if it has a tag or a name.
-/

namespace Delegation.LooseYaml

open Yaml (Token)

/-- What is known while documents are read. -/
structure Reading where
  /-- The tokens that are left. -/
  tokens : List Token
  /-- The short forms of tags with what they stand for. -/
  shorthands : List (List Char × List Char) := []
  /-- The names of nodes with their numbers, the latest first. -/
  names : List (List Char × Nat) := []
  /-- The values of the named nodes that were read, by their numbers. -/
  values : List (Nat × Value) := []
  /-- The number of names that were given. -/
  count : Nat := 0

/-- A step that reads something, if it is well-formed. -/
abbrev Read := StateT Reading Option

namespace Read

/-- The next token; nothing at the end. -/
def peek : Read (Option Token) := do
  pure (← get).tokens.head?

/-- Take the next token. -/
def advance : Read Unit :=
  modify fun r => { r with tokens := r.tokens.drop 1 }

/-! ## Properties of nodes -/

/-- The tag that a handle and a suffix stand for.  A handle with two exclamation marks has to be
declared, the standard one excepted. -/
def resolve? (shorthands : List (List Char × List Char)) (handle suffix : List Char) :
    Option (List Char × List Char) :=
  match shorthands.lookup handle with
  | some stem => some (stem, suffix)
  | none =>
    if handle = ['!', '!'] then some (Value.coreTags, suffix)
    else if Yaml.Property.isFullHandle handle then none
    else some (handle, suffix)

/-- The tag that stands next, if there is one. -/
def tag : Read (Option (List Char × List Char)) := do
  match ← peek with
  | some (.tag handle suffix) =>
    advance
    pure (some (← resolve? (← get).shorthands handle suffix))
  | _ => pure none

/-- The number of the name that stands next, if there is one. -/
def anchor : Read (Option Nat) := do
  match ← peek with
  | some (.anchor name) =>
    advance
    let n := (← get).count
    modify fun r => { r with names := (name, n) :: r.names, count := n + 1 }
    pure (some n)
  | _ => pure none

/-- What stands in front of a node. -/
structure Properties where
  /-- The number of its name. -/
  number : Option Nat
  /-- Its tag. -/
  tag : Option (List Char × List Char)

/-- A name and a tag, in either order and each optional. -/
def properties : Read Properties := do
  match ← anchor with
  | some n => pure ⟨some n, ← tag⟩
  | none =>
    match ← tag with
    | some t => pure ⟨← anchor, some t⟩
    | none => pure ⟨none, none⟩

/-- Remember the value of a node that has a name. -/
def remember (p : Properties) (v : Value) : Read Value := do
  match p.number with
  | some n => modify fun r => { r with values := (n, v) :: r.values }
  | none => pure ()
  pure v

/-- The value of the node of a name.  A node that is still being read makes no sense inside
itself. -/
def reference (name : List Char) : Read Value := do
  let r ← get
  let n ← (r.names.lookup name : Option Nat)
  pure ((r.values.lookup n).getD .senseless)

/-! ## Nodes -/

/-- Whether the next token is one of the given ones. -/
def nextIn (tokens : List (Option Token)) : Read Bool := do
  pure (tokens.contains (← peek))

/-- The tokens before which a key or a value of an indented mapping is missing. -/
def blockStops : List (Option Token) :=
  [some .key, some .value, some .blockEnd]

/-- Take the token that has to stand next. -/
def expect (t : Token) : Read Unit := do
  if (← peek) == some t then advance else failure

mutual

/-- A node.  Indented collections are allowed outside of brackets only; a sequence without
indentation of its own only in a mapping. -/
def node : Nat → (block indentless : Bool) → Read Value
  | 0, _, _ => failure
  | fuel + 1, block, indentless => do
    match ← peek with
    | some (.reference name) =>
      advance
      reference name
    | _ =>
      let p ← properties
      let v ← content fuel block indentless p
      remember p v

/-- What follows the properties of a node. -/
def content : Nat → (block indentless : Bool) → Properties → Read Value
  | 0, _, _, _ => failure
  | fuel + 1, block, indentless, p => do
    match ← peek, block, indentless with
    | some .item, _, true => .sequence <$> indentlessItems fuel
    | some (.scalar style s), _, _ =>
      advance
      pure (.ofScalar style p.tag s)
    | some .openSequence, _, _ =>
      advance
      .sequence <$> flowItems fuel true
    | some .openMapping, _, _ =>
      advance
      let v ← Value.ofNodes? (← flowEntries fuel true)
      pure v
    | some .blockSequence, true, _ =>
      advance
      .sequence <$> blockItems fuel
    | some .blockMapping, true, _ =>
      advance
      let v ← Value.ofNodes? (← blockEntries fuel)
      pure v
    | _, _, _ =>
      if p.number.isSome || p.tag.isSome then pure (.ofScalar .plain p.tag []) else failure

/-- The items of a sequence without indentation of its own. -/
def indentlessItems : Nat → Read (List Value)
  | 0 => failure
  | fuel + 1 => do
    if ← nextIn [some .item] then
      advance
      let v ← if ← nextIn (some .item :: blockStops) then pure .null else node fuel true false
      pure (v :: (← indentlessItems fuel))
    else pure []

/-- The items of an indented sequence, up to and with its end. -/
def blockItems : Nat → Read (List Value)
  | 0 => failure
  | fuel + 1 => do
    if ← nextIn [some .blockEnd] then
      advance
      pure []
    else
      expect .item
      let v ← if ← nextIn [some .item, some .blockEnd] then pure .null else node fuel true false
      pure (v :: (← blockItems fuel))

/-- The keys and values of an indented mapping by turns, up to and with its end. -/
def blockEntries : Nat → Read (List Value)
  | 0 => failure
  | fuel + 1 => do
    if ← nextIn [some .blockEnd] then
      advance
      pure []
    else
      let k ←
        if ← nextIn [some .value] then pure .null
        else
          expect .key
          if ← nextIn blockStops then pure .null else node fuel true true
      let v ←
        if ← nextIn [some .value] then
          advance
          if ← nextIn blockStops then pure .null else node fuel true true
        else pure .null
      pure (k :: v :: (← blockEntries fuel))

/-- A value in braces after its key. -/
def flowValue : Nat → Read Value
  | 0 => failure
  | fuel + 1 => do
    if ← nextIn [some .value] then
      advance
      if ← nextIn [some .separator, some .closeMapping] then pure .null
      else node fuel false false
    else pure .null

/-- The keys and values in braces by turns, up to and with the closing brace. -/
def flowEntries : Nat → (first : Bool) → Read (List Value)
  | 0, _ => failure
  | fuel + 1, first => do
    if ← nextIn [some .closeMapping] then
      advance
      pure []
    else
      if !first then expect .separator
      match ← peek with
      | some .closeMapping =>
        advance
        pure []
      | some .key =>
        advance
        let k ←
          if ← nextIn [some .value, some .separator, some .closeMapping] then pure .null
          else node fuel false false
        let v ← flowValue fuel
        pure (k :: v :: (← flowEntries fuel false))
      | some .value =>
        let v ← flowValue fuel
        pure (.null :: v :: (← flowEntries fuel false))
      | _ =>
        let k ← node fuel false false
        pure (k :: .null :: (← flowEntries fuel false))

/-- A mapping of one entry in brackets, after the token for its key.  If the key is missing, what
stands in its place is lost. -/
def flowPair : Nat → Read Value
  | 0 => failure
  | fuel + 1 => do
    let k ←
      if ← nextIn [some .value, some .separator, some .closeSequence] then
        advance
        pure .null
      else node fuel false false
    let v ←
      if ← nextIn [some .value] then
        advance
        if ← nextIn [some .separator, some .closeSequence] then pure .null
        else node fuel false false
      else pure .null
    let v ← Value.ofNodes? [k, v]
    pure v

/-- The items in brackets, up to and with the closing bracket. -/
def flowItems : Nat → (first : Bool) → Read (List Value)
  | 0, _ => failure
  | fuel + 1, first => do
    if ← nextIn [some .closeSequence] then
      advance
      pure []
    else
      if !first then expect .separator
      match ← peek with
      | some .closeSequence =>
        advance
        pure []
      | some .key =>
        advance
        let v ← flowPair fuel
        pure (v :: (← flowItems fuel false))
      | _ =>
        let v ← node fuel false false
        pure (v :: (← flowItems fuel false))

end

/-! ## Documents -/

/-- Whether a token is a directive. -/
def isDirective : Option Token → Bool
  | some (.version _ _) => true
  | some (.shorthand _ _) => true
  | _ => false

/-- Take the ends of documents. -/
def skipEnds : Nat → Read Unit
  | 0 => pure ()
  | fuel + 1 => do
    if ← nextIn [some .documentEnd] then
      advance
      skipEnds fuel

/-- Take directives, of which one may give a version.  Of short forms, only the one that the last
directive gives counts. -/
def directives : Nat → (versioned : Bool) → Read Unit
  | 0, _ => failure
  | fuel + 1, versioned => do
    match ← peek with
    | some (.version _ _) =>
      if versioned then failure
      else
        modify fun r => { r with shorthands := [] }
        advance
        directives fuel true
    | some (.shorthand handle stem) =>
      modify fun r => { r with shorthands := [(handle, stem)] }
      advance
      directives fuel versioned
    | _ => pure ()

/-- A document after what separates it from the one before. -/
def document (fuel : Nat) (bare : Bool) : Read Value := do
  let next ← peek
  if bare && !isDirective next && next != some .documentStart then node fuel true false
  else
    directives fuel false
    expect .documentStart
    let next ← peek
    if isDirective next || [none, some .documentStart, some .documentEnd].contains next then
      pure .null
    else node fuel true false

/-- The documents that are left; the first one may be bare, that is without a line in front of it
that separates it from the one before. -/
def documents (fuel : Nat) : Nat → (bare : Bool) → Read (List Value)
  | 0, _ => failure
  | rounds + 1, bare => do
    skipEnds fuel
    if (← peek).isNone then pure []
    else
      modify fun r => { r with names := [] }
      let v ← document fuel bare
      modify fun r => { r with shorthands := [] }
      let ended ← nextIn [some .documentEnd]
      if ended then advance
      if !ended && isDirective (← peek) then failure
      else pure (v :: (← documents fuel rounds ended))

end Read

/-- The values of the documents that a text writes. -/
def documents? (text : String) : Option (List Value) := do
  let tokens ← scan text
  let n := tokens.length + 1
  let r ← (Read.documents (4 * n) n true).run { tokens := tokens }
  pure r.1

end Delegation.LooseYaml
