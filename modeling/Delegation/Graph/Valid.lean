import Delegation.Graph.Basic
/-!
# Valid graphs

In a valid graph each value is given once, either by the graph or by one node, every value is
given before it is read, and the graph gives only values that exist.  A block is well-formed when
it is valid as a graph and gives only values that its own nodes produce.
-/

namespace Delegation

/-- Every node reads only values that are known when its turn comes. -/
def ReadsKnown (known : List ValueId) : List Node → Prop
  | [] => True
  | n :: ns => (∀ v ∈ n.inputs, v ∈ known) ∧ ReadsKnown (known ++ n.outputs) ns

/-- The values that nodes produce, in order. -/
def produced (ns : List Node) : List ValueId :=
  ns.flatMap Node.outputs

/-- A graph in which each value is given once, and before it is read. -/
structure Graph.Valid (g : Graph) : Prop where
  /-- No value is given twice. -/
  single_assignment : (g.inputs ++ produced g.nodes).Nodup
  /-- Values are given before they are read. -/
  reads_known : ReadsKnown g.inputs g.nodes
  /-- The graph gives only values that it takes or produces. -/
  outputs_known : ∀ v ∈ g.outputs, v ∈ g.inputs ++ produced g.nodes

/-- A block in which each value is given once, and before it is read, and which gives only values
that its nodes produce. -/
structure Block.Closed (b : Block Node) : Prop where
  /-- No value is given twice. -/
  single_assignment : (b.inputs ++ produced b.nodes).Nodup
  /-- Values are given before they are read. -/
  reads_known : ReadsKnown b.inputs b.nodes
  /-- The block gives only values that its nodes produce. -/
  outputs_produced : ∀ v ∈ b.outputs, v ∈ produced b.nodes

end Delegation
