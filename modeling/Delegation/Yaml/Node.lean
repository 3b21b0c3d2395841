import Delegation.Yaml.Token
/-!
# Documents of YAML

A document is a tree of nodes.  Anchored nodes have numbers, and a reference stands for the node
with its number.
-/

namespace Delegation.Yaml

/-- What is said about a node besides its contents. -/
structure Label where
  /-- Its number, if it is anchored. -/
  number : Option Nat := none
  /-- Its tag, if it has one. -/
  tag : Option String := none
deriving DecidableEq, Repr, Inhabited

/-- A node. -/
inductive Node where
  /-- A scalar. -/
  | scalar (label : Label) (style : Style) (text : String)
  /-- A sequence. -/
  | sequence (label : Label) (items : List Node)
  /-- A mapping, with its entries in order. -/
  | mapping (label : Label) (entries : List (Node × Node))
  /-- A reference to the node with a number. -/
  | reference (number : Nat)

namespace Node

/-- The scalar that stands where nothing is written. -/
def blank : Node :=
  scalar {} .plain ""

/-- The label of a node. -/
def label : Node → Label
  | scalar l _ _ => l
  | sequence l _ => l
  | mapping l _ => l
  | reference _ => {}

mutual

/-- The last node with a number in a tree. -/
def search (n : Nat) : Node → Option Node
  | scalar l s t => if l.number = some n then some (scalar l s t) else none
  | sequence l items =>
    (searchItems n items).orElse fun _ =>
      if l.number = some n then some (sequence l items) else none
  | mapping l entries =>
    (searchEntries n entries).orElse fun _ =>
      if l.number = some n then some (mapping l entries) else none
  | reference _ => none

/-- The last node with a number among items. -/
def searchItems (n : Nat) : List Node → Option Node
  | [] => none
  | item :: rest => (searchItems n rest).orElse fun _ => search n item

/-- The last node with a number among entries. -/
def searchEntries (n : Nat) : List (Node × Node) → Option Node
  | [] => none
  | (k, v) :: rest =>
    (searchEntries n rest).orElse fun _ => (search n v).orElse fun _ => search n k

end

/-- The last node with a number in a document. -/
def find? (root : Node) (n : Nat) : Option Node :=
  search n root

/-- The node that a node stands for in a document: itself, unless it is a reference. -/
def resolve (node root : Node) : Option Node :=
  match node with
  | reference n => root.find? n
  | node => some node

end Node

end Delegation.Yaml
