import Delegation.Fault
/-!
# Qualified operator names

A symbol is a namespace and a name; its qualified text joins the two by a double colon.  Reading a
text splits it at its *first* double colon and refuses empty parts, so a symbol whose namespace
itself holds a double colon, or ends in a colon, is not read back from its text.
-/

namespace Delegation

/-- A qualified operator name. -/
structure Symbol where
  /-- The namespace. -/
  space : String
  /-- The name within the namespace. -/
  name : String
deriving DecidableEq, Repr

namespace Symbol

/-- The qualified text of a symbol. -/
def qualified (s : Symbol) : String :=
  s.space ++ "::" ++ s.name

/-- The texts before and after the first double colon. -/
def splitFirst : List Char → Option (List Char × List Char)
  | ':' :: ':' :: rest => some ([], rest)
  | c :: rest => (splitFirst rest).map fun p => (c :: p.1, p.2)
  | [] => none

/-- Read a qualified text: both parts must be there and must not be empty. -/
def parse (text : String) : Except Fault Symbol :=
  match splitFirst text.toList with
  | some (a :: as, b :: bs) => .ok ⟨String.ofList (a :: as), String.ofList (b :: bs)⟩
  | _ => .error (.invalidSymbol text)

/-- Symbols are ordered by namespace, then by name. -/
instance : Ord Symbol where
  compare s t := (compare s.space t.space).then (compare s.name t.name)

end Symbol

end Delegation
