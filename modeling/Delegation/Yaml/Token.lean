/-!
# Tokens of YAML

Collections that are written by indentation get tokens for their start and end too.
-/

namespace Delegation.Yaml

/-- How a scalar is written. -/
inductive Style where
  /-- Without quotes. -/
  | plain
  /-- In single or double quotes. -/
  | quoted
  /-- As indented lines that are kept. -/
  | literal
  /-- As indented lines that are folded. -/
  | folded
deriving DecidableEq, Repr

/-- A token. -/
inductive Token where
  /-- A version directive. -/
  | version (major minor : Nat)
  /-- A directive that gives tags a short form. -/
  | shorthand (handle stem : List Char)
  /-- The start of a document. -/
  | documentStart
  /-- The end of a document. -/
  | documentEnd
  /-- The start of a sequence that is written by indentation. -/
  | blockSequence
  /-- The start of a mapping that is written by indentation. -/
  | blockMapping
  /-- The end of either. -/
  | blockEnd
  /-- An opening bracket. -/
  | openSequence
  /-- A closing bracket. -/
  | closeSequence
  /-- An opening brace. -/
  | openMapping
  /-- A closing brace. -/
  | closeMapping
  /-- A comma inside brackets or braces. -/
  | separator
  /-- A hyphen in front of an item. -/
  | item
  /-- The start of a key. -/
  | key
  /-- The start of a value. -/
  | value
  /-- A reference to a node. -/
  | reference (name : List Char)
  /-- A name for a node. -/
  | anchor (name : List Char)
  /-- A tag; the handle is empty when the tag is written in full. -/
  | tag (handle suffix : List Char)
  /-- A scalar. -/
  | scalar (style : Style) (text : List Char)
deriving DecidableEq, Repr

end Delegation.Yaml
