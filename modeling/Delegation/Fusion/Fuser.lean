import Delegation.Fusion.Region
import Delegation.Fusion.Runs
import Delegation.Settings
/-!
# Fusion

Fusion takes regions out of a graph and leaves one node of the fusion kind in the place of each.
The region travels with that node as its subgraph.  The fuser for a set of kinds takes the maximal
runs of nodes whose kind it supports, unless they are too short.
-/

namespace Delegation

/-- What a fuser leaves: the graph, the number of fusion nodes it created, and the supply of block
identities that is left. -/
structure Fusion where
  /-- The graph after fusion. -/
  graph : Graph
  /-- The number of fusion nodes created. -/
  count : Nat
  /-- The identities that are left. -/
  supply : BlockSupply

/-- A fuser: what it makes of a graph for a given fusion kind. -/
abbrev Fuser := Symbol → Graph → BlockSupply → Fusion

/-- The fuser for a set of kinds. -/
structure KindFuser where
  /-- The kinds that may be fused. -/
  supported : List Symbol
  /-- The length of the shortest run that is fused. -/
  floor : Nat := 1
  /-- The qualified names that must not be fused. -/
  blacklist : List String := []
deriving DecidableEq, Repr

namespace KindFuser

/-- Take the floor and the blacklist from settings; no floor is below one. -/
def withSettings (f : KindFuser) (s : Settings) : KindFuser :=
  { f with floor := max 1 s.minGroupSize.toNat, blacklist := s.blacklist }

/-- Whether a node may become part of a fusion node of the given kind. -/
def isFusible (f : KindFuser) (kind : Symbol) (n : Node) : Bool :=
  n.kind ≠ kind && n.subgraph.isNone && f.supported.contains n.kind &&
    !f.blacklist.contains n.kind.qualified

/-- The segments of a node list. -/
def segments (f : KindFuser) (kind : Symbol) (ns : List Node) : List Segment :=
  Segment.ofNodes (f.isFusible kind) ns

/-- The positions of the runs that are fused: of those that a scan finds, the ones that are long
enough. -/
def candidateRuns (f : KindFuser) (kind : Symbol) (ns : List Node) : List (Nat × Nat) :=
  (Scan.runs (f.isFusible kind) ns).filter fun r => f.floor ≤ r.2 - r.1

/-- The node that stands for a region. -/
def fusionNode (kind : Symbol) (ns : List Node) (needed : List ValueId) (s : BlockSupply) :
    Node × BlockSupply :=
  let block := Region.block ns needed
  let made := s.subgraph block
  (⟨kind, block.inputs, block.outputs, some made.1⟩, made.2)

/-- A node list after fusion, the number of its new fusion nodes, and the identities that are
left. -/
structure FusedNodes where
  /-- The nodes. -/
  nodes : List Node
  /-- The number of new fusion nodes. -/
  count : Nat
  /-- The identities that are left. -/
  supply : BlockSupply

/-- Replace the long runs among segments.  What a region gives is needed later when it is one of
the `outputs` of the graph or when a node of a later segment reads it. -/
def fuseSegments (floor : Nat) (kind : Symbol) (outputs : List ValueId) :
    List Segment → BlockSupply → FusedNodes
  | [], s => ⟨[], 0, s⟩
  | .kept n :: rest, s =>
    let r := fuseSegments floor kind outputs rest s
    ⟨n :: r.nodes, r.count, r.supply⟩
  | .run ns :: rest, s =>
    if floor ≤ ns.length then
      let needed := outputs ++ (Segment.nodesOf rest).flatMap Node.inputs
      let made := fusionNode kind ns needed s
      let r := fuseSegments floor kind outputs rest made.2
      ⟨made.1 :: r.nodes, r.count + 1, r.supply⟩
    else
      let r := fuseSegments floor kind outputs rest s
      ⟨ns ++ r.nodes, r.count, r.supply⟩

/-- Fuse the runs of a graph. -/
def fuse (f : KindFuser) : Fuser := fun kind g s =>
  let r := fuseSegments f.floor kind g.outputs (f.segments kind g.nodes) s
  ⟨{ g with nodes := r.nodes }, r.count, r.supply⟩

end KindFuser

end Delegation
