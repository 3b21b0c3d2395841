import Delegation.Fusion.Fuser
import Mathlib.Tactic.Common
/-!
# The parts of a fused graph

A node list after fusion consists of nodes of the original list and of new fusion nodes, each of
which stands for a region of the original list.  `KindFuser.parts` lists these parts together with
their regions:

* `KindFuser.map_node_parts`: the nodes of the parts are the nodes after fusion;
* `KindFuser.origins_parts`: the original nodes of the parts are the nodes before fusion;
* `KindFuser.length_created`: as many parts are new as the fuser counts;
* `KindFuser.made_parts`: each new node is what fusion makes of its region, when what is needed
  later is what the graph gives and what the original nodes after the region read.

Proofs about a fused graph go by induction on the parts, with one case for nodes that stayed and one
for nodes that were made; that a run may be too short no longer shows.
-/

namespace Delegation

/-- A part of a node list after fusion. -/
inductive Part where
  /-- A node of the original list. -/
  | kept (node : Node)
  /-- A new fusion node and the region for which it stands. -/
  | made (node : Node) (region : List Node)

namespace Part

/-- The node after fusion. -/
def node : Part → Node
  | kept n => n
  | made n _ => n

/-- The nodes before fusion. -/
def origin : Part → List Node
  | kept n => [n]
  | made _ region => region

/-- The node, if it is new. -/
def created? : Part → Option Node
  | kept _ => none
  | made n _ => some n

/-- The nodes before fusion of several parts. -/
def origins (parts : List Part) : List Node :=
  parts.flatMap origin

/-- Each new node is the fusion node of its region. -/
def Made (kind : Symbol) (outputs : List ValueId) : List Part → Prop
  | [] => True
  | kept _ :: rest => Made kind outputs rest
  | made n region :: rest =>
    (∃ s, n = (KindFuser.fusionNode kind region
      (outputs ++ (origins rest).flatMap Node.inputs) s).1) ∧ Made kind outputs rest

@[simp] lemma origins_nil : origins [] = [] := rfl

@[simp] lemma origins_kept (n : Node) (rest : List Part) :
    origins (kept n :: rest) = n :: origins rest := rfl

@[simp] lemma origins_made (n : Node) (region : List Node) (rest : List Part) :
    origins (made n region :: rest) = region ++ origins rest := rfl

lemma origins_map_kept (ns : List Node) (rest : List Part) :
    origins (ns.map kept ++ rest) = ns ++ origins rest := by
  induction ns with
  | nil => rfl
  | cons n ns ih => rw [List.map_cons, List.cons_append, origins_kept, ih, List.cons_append]

lemma map_node_map_kept (ns : List Node) : (ns.map kept).map node = ns := by
  rw [List.map_map]
  exact List.map_id' ns

lemma filterMap_created_map_kept (ns : List Node) : (ns.map kept).filterMap created? = [] := by
  rw [List.filterMap_map, List.filterMap_eq_nil_iff]
  intro n _
  rfl

lemma sublist_created_node (parts : List Part) :
    (parts.filterMap created?).Sublist (parts.map node) := by
  induction parts with
  | nil => exact List.Sublist.refl []
  | cons part rest ih =>
    cases part with
    | kept n => exact ih.cons n
    | made n region => exact ih.cons_cons n

lemma made_map_kept {kind : Symbol} {outputs : List ValueId} {rest : List Part}
    (h : Made kind outputs rest) (ns : List Node) : Made kind outputs (ns.map kept ++ rest) := by
  induction ns with
  | nil => exact h
  | cons n ns ih => exact ih

end Part

namespace KindFuser

/-- The parts into which segments go. -/
def partsOf (floor : Nat) (kind : Symbol) (outputs : List ValueId) :
    List Segment → BlockSupply → List Part
  | [], _ => []
  | .kept n :: rest, s => .kept n :: partsOf floor kind outputs rest s
  | .run ns :: rest, s =>
    if floor ≤ ns.length then
      let made := fusionNode kind ns (outputs ++ (Segment.nodesOf rest).flatMap Node.inputs) s
      .made made.1 ns :: partsOf floor kind outputs rest made.2
    else
      ns.map .kept ++ partsOf floor kind outputs rest s

/-- The parts of a graph after fusion. -/
def parts (f : KindFuser) (kind : Symbol) (g : Graph) (s : BlockSupply) : List Part :=
  partsOf f.floor kind g.outputs (f.segments kind g.nodes) s

/-- The fusion nodes that fusion creates. -/
def created (f : KindFuser) (kind : Symbol) (g : Graph) (s : BlockSupply) : List Node :=
  (f.parts kind g s).filterMap Part.created?

/-! ### Parts of segments -/

lemma map_node_partsOf (floor : Nat) (kind : Symbol) (outputs : List ValueId)
    (segments : List Segment) (s : BlockSupply) :
    (partsOf floor kind outputs segments s).map Part.node =
      (fuseSegments floor kind outputs segments s).nodes := by
  induction segments generalizing s with
  | nil => rfl
  | cons segment rest ih =>
    cases segment with
    | kept n => simp only [partsOf, fuseSegments, List.map_cons, ih, Part.node]
    | run ns =>
      by_cases hlong : floor ≤ ns.length
      · simp only [partsOf, fuseSegments, if_pos hlong, List.map_cons, ih, Part.node]
      · simp only [partsOf, fuseSegments, if_neg hlong, List.map_append, ih,
          Part.map_node_map_kept]

lemma origins_partsOf (floor : Nat) (kind : Symbol) (outputs : List ValueId)
    (segments : List Segment) (s : BlockSupply) :
    Part.origins (partsOf floor kind outputs segments s) = Segment.nodesOf segments := by
  induction segments generalizing s with
  | nil => rfl
  | cons segment rest ih =>
    have hnodes : Segment.nodesOf (segment :: rest) = segment.nodes ++ Segment.nodesOf rest :=
      List.flatMap_cons
    rw [hnodes]
    cases segment with
    | kept n =>
      simp only [partsOf, Part.origins_kept, ih, Segment.nodes, List.cons_append, List.nil_append]
    | run ns =>
      by_cases hlong : floor ≤ ns.length
      · simp only [partsOf, if_pos hlong, Part.origins_made, ih, Segment.nodes]
      · simp only [partsOf, if_neg hlong, Part.origins_map_kept, ih, Segment.nodes]

lemma length_created_partsOf (floor : Nat) (kind : Symbol) (outputs : List ValueId)
    (segments : List Segment) (s : BlockSupply) :
    ((partsOf floor kind outputs segments s).filterMap Part.created?).length =
      (fuseSegments floor kind outputs segments s).count := by
  induction segments generalizing s with
  | nil => rfl
  | cons segment rest ih =>
    cases segment with
    | kept n => simp only [partsOf, fuseSegments, List.filterMap_cons, Part.created?, ih]
    | run ns =>
      by_cases hlong : floor ≤ ns.length
      · simp only [partsOf, fuseSegments, if_pos hlong, List.filterMap_cons, Part.created?,
          List.length_cons, ih]
      · simp only [partsOf, fuseSegments, if_neg hlong, List.filterMap_append,
          Part.filterMap_created_map_kept, List.nil_append, ih]

lemma made_partsOf (floor : Nat) (kind : Symbol) (outputs : List ValueId)
    (segments : List Segment) (s : BlockSupply) :
    Part.Made kind outputs (partsOf floor kind outputs segments s) := by
  induction segments generalizing s with
  | nil => trivial
  | cons segment rest ih =>
    cases segment with
    | kept n => exact ih s
    | run ns =>
      by_cases hlong : floor ≤ ns.length
      · rw [partsOf, if_pos hlong]
        refine ⟨⟨s, ?_⟩, ih _⟩
        rw [origins_partsOf]
      · rw [partsOf, if_neg hlong]
        exact Part.made_map_kept (ih s) ns

/-! ### Parts of graphs -/

variable (f : KindFuser) (kind : Symbol) (g : Graph) (s : BlockSupply)

/-- The parts hold the nodes after fusion, in order. -/
lemma map_node_parts : (f.parts kind g s).map Part.node = (f.fuse kind g s).graph.nodes :=
  map_node_partsOf _ _ _ _ _

/-- The parts hold the nodes before fusion, in order. -/
lemma origins_parts : Part.origins (f.parts kind g s) = g.nodes := by
  rw [parts, origins_partsOf, segments, Segment.nodesOf_ofNodes]

/-- What fusion creates is part of what it leaves, in the same order. -/
lemma sublist_created : (f.created kind g s).Sublist (f.fuse kind g s).graph.nodes := by
  rw [← map_node_parts]
  exact Part.sublist_created_node _

/-- The fuser counts the fusion nodes that it creates. -/
lemma length_created : (f.created kind g s).length = (f.fuse kind g s).count :=
  length_created_partsOf _ _ _ _ _

lemma made_parts : Part.Made kind g.outputs (f.parts kind g s) :=
  made_partsOf _ _ _ _ _

end KindFuser

end Delegation
