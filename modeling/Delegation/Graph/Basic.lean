import Delegation.Key
import Delegation.Symbol
/-!
# Graphs, nodes and blocks

A graph is an ordered list of nodes over numbered values.  A node may carry a subgraph: a block of
nodes with an identity of its own.  The identity belongs to the block and not to its contents, so
a copy of a node keeps it, while a block with the same contents that is made anew gets another
one.  New identities are drawn from a supply, and `BlockSupply.Fresh` says which identities a
supply can still give.
-/

namespace Delegation

/-- The number of a value within a graph. -/
structure ValueId where
  /-- The number. -/
  index : Nat
deriving DecidableEq, Repr

/-- How a value number is shown in messages. -/
def ValueId.display (v : ValueId) : String :=
  "ValueId(" ++ toString v.index ++ ")"

/-- A list of nodes with the values that it takes and the values that it gives. -/
structure Block (ν : Type) where
  /-- The values that the block takes. -/
  inputs : List ValueId
  /-- The nodes, in the order of evaluation. -/
  nodes : List ν
  /-- The values that the block gives. -/
  outputs : List ValueId

/-- A block with its identity. -/
structure Subgraph (ν : Type) where
  /-- The identity of the block. -/
  id : BlockId
  /-- The block. -/
  block : Block ν

/-- An operation of a graph. -/
structure Node where
  /-- The operator. -/
  kind : Symbol
  /-- The values that the node reads. -/
  inputs : List ValueId
  /-- The values that the node produces. -/
  outputs : List ValueId
  /-- The subgraph attribute, which fusion nodes carry. -/
  subgraph : Option (Subgraph Node)

/-- A graph as the host hands it to the passes. -/
structure Graph where
  /-- The values that the graph takes. -/
  inputs : List ValueId
  /-- The nodes, in the order of evaluation. -/
  nodes : List Node
  /-- The values that the graph gives. -/
  outputs : List ValueId

namespace Graph

/-- Append a node. -/
def push (g : Graph) (n : Node) : Graph :=
  { g with nodes := g.nodes ++ [n] }

/-- The nodes of a kind. -/
def nodesOfKind (g : Graph) (kind : Symbol) : List Node :=
  g.nodes.filter fun n => n.kind = kind

/-- The number of nodes. -/
def size (g : Graph) : Nat :=
  g.nodes.length

end Graph

/-! ## Identities of blocks -/

mutual

/-- The identities of the blocks in a node, inner ones included. -/
def Node.blockIds : Node → List BlockId
  | ⟨_, _, _, none⟩ => []
  | ⟨_, _, _, some ⟨id, ⟨_, nodes, _⟩⟩⟩ => id :: Node.blockIdsOf nodes

/-- The identities of the blocks in several nodes. -/
def Node.blockIdsOf : List Node → List BlockId
  | [] => []
  | n :: ns => n.blockIds ++ Node.blockIdsOf ns

end

/-- The identities of the blocks in a graph. -/
def Graph.blockIds (g : Graph) : List BlockId :=
  Node.blockIdsOf g.nodes

/-- The part of memory that no block has used so far. -/
structure BlockSupply where
  /-- The first unused address. -/
  next : Nat
deriving DecidableEq, Repr

namespace BlockSupply

/-- Take a new identity. -/
def take (s : BlockSupply) : BlockId × BlockSupply :=
  (⟨UInt64.ofNat s.next⟩, ⟨s.next + 1⟩)

/-- The supply still holds `count` identities, all of them different from the given ones. -/
def Fresh (s : BlockSupply) (count : Nat) (used : List BlockId) : Prop :=
  (∀ id ∈ used, id.address.toNat < s.next) ∧ s.next + count ≤ UInt64.size

/-- Make a block into a subgraph with a new identity. -/
def subgraph (s : BlockSupply) (block : Block Node) : Subgraph Node × BlockSupply :=
  (⟨s.take.1, block⟩, s.take.2)

theorem take_not_mem {s : BlockSupply} {used : List BlockId} (h : s.Fresh 1 used) :
    s.take.1 ∉ used := by
  intro hmem
  have hlt := h.1 _ hmem
  have hle := h.2
  simp only [take] at hlt
  rw [UInt64.toNat_ofNat_of_lt' (by show s.next < UInt64.size; omega)] at hlt
  omega

end BlockSupply

end Delegation
