import Delegation.Number.Reading
import Delegation.Yaml.Node
/-!
# Uses of nodes

What a node can be used as, given what its place asks for.  Every scalar is a text.  Truth values
and numbers have to be written without quotes.  Where nothing is written, there is an empty sequence
or a mapping without entries.
-/

namespace Delegation.Yaml

namespace Node

/-- The scalar that a node stands for. -/
def scalar? (node root : Node) : Option (Label × Style × String) :=
  match node.resolve root with
  | some (.scalar l style text) => some (l, style, text)
  | _ => none

/-- The text of a scalar. -/
def text? (node root : Node) : Option String :=
  (node.scalar? root).map fun s => s.2.2

/-- The text of a scalar without quotes, or of indented lines with a given tag. -/
def bare? (tag : String) (node root : Node) : Option String :=
  match node.scalar? root with
  | some (_, .plain, text) => some text
  | some (l, .literal, text) => if l.tag = some tag then some text else none
  | _ => none

/-- A truth value. -/
def bool? (node root : Node) : Option Bool :=
  match node.bare? "tag:yaml.org,2002:bool" root with
  | some text =>
    if ["true", "True", "TRUE"].contains text then some true
    else if ["false", "False", "FALSE"].contains text then some false
    else none
  | none => none

/-- The number that a text in a base other than ten denotes, if it is marked as one. -/
def basedNat? : List Char → Option Nat
  | '0' :: 'x' :: digits => natOfText? 16 digits
  | '0' :: 'o' :: digits => natOfText? 8 digits
  | '0' :: 'b' :: digits => natOfText? 2 digits
  | _ => none

/-- The number that a text denotes: in base ten, without zeros in front, or in base sixteen, eight
or two after a mark. -/
def natOfScalar? (text : List Char) : Option Nat :=
  let body :=
    match text with
    | '+' :: rest => rest
    | rest => rest
  (basedNat? body).orElse fun _ =>
    if body.head? = some '0' ∧ 1 < body.length then none else natOfText? 10 body

/-- An integer of 64 bits without a sign. -/
def word? (node root : Node) : Option UInt64 :=
  (node.bare? "tag:yaml.org,2002:int" root).bind fun text =>
    (natOfScalar? text.toList).bind fitsWord

/-- Whether nothing is written at a node. -/
def isBlank : Node → Bool
  | .scalar _ .plain text => text.isEmpty
  | _ => false

/-- The items of a sequence. -/
def items? (node root : Node) : Option (List Node) :=
  match node.resolve root with
  | some (.sequence _ items) => some items
  | some other => if other.isBlank then some [] else none
  | none => none

/-- The texts of a sequence of scalars. -/
def texts? (node root : Node) : Option (List String) :=
  (node.items? root).bind fun items => items.mapM fun i => i.text? root

end Node

/-- A mapping whose keys are scalars, in its document. -/
structure Record where
  /-- The document. -/
  root : Node
  /-- The entries. -/
  fields : List (String × Node)

/-- The mapping that a node stands for. -/
def Node.record? (node root : Node) : Option Record :=
  match node.resolve root with
  | some (.mapping _ entries) => do
    let fields ← entries.mapM fun (k, v) => (k.text? root).map (·, v)
    pure ⟨root, fields⟩
  | some other => if other.isBlank then some ⟨root, []⟩ else none
  | none => none

/-- A field that may be left out, has a default, and may not be repeated. -/
def Record.field? {α : Type} (r : Record) (read : Node → Node → Option α) (name : String)
    (default : α) : Option α :=
  match r.fields.filter fun f => f.1 == name with
  | [] => some default
  | [f] => read f.2 r.root
  | _ => none

end Delegation.Yaml
