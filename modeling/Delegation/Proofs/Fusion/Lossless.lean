import Delegation.Proofs.Fusion.Regions
/-!
# Fusion loses nothing

The original nodes can be read off a fused graph: the nodes whose blocks did not exist before are
the new ones, and putting the nodes of their blocks in their places gives back the original list
(`Part.flatMap_unfolded`).  The other blocks are those that existed before
(`Part.perm_blockIds`), so that each new block can be told from every other one.

`KindFuser.fuse_lossless` says so of every graph, as long as the supply of identities is fresh.
-/

namespace Delegation

/-! ### Nodes with new blocks -/

namespace Node

/-- The node carries a block whose identity is none of the given ones. -/
def isNew (old : List BlockId) (n : Node) : Bool :=
  n.subgraph.any fun sub => sub.id ∉ old

/-- What a node stands for: the nodes of its block if that is a new one, and otherwise itself. -/
def unfolded (old : List BlockId) (n : Node) : List Node :=
  match n.subgraph with
  | some sub => if sub.id ∈ old then [n] else sub.block.nodes
  | none => [n]

variable {old : List BlockId}

lemma isNew_eq_true_iff {n : Node} :
    n.isNew old = true ↔ ∃ sub, n.subgraph = some sub ∧ sub.id ∉ old := by
  simp only [isNew, Option.any_eq_true, decide_eq_true_eq]

/-- A node whose blocks are all old is not new, and stands for itself. -/
lemma isNew_of_subset {n : Node} (h : n.blockIds ⊆ old) : n.isNew old = false := by
  obtain ⟨kind, inputs, outputs, _ | ⟨id, params, nodes, gives⟩⟩ := n
  · rfl
  · have hid : id ∈ old := h List.mem_cons_self
    simp only [isNew, Option.any_some, hid, not_true_eq_false, decide_false]

lemma unfolded_of_not_isNew {n : Node} (h : n.isNew old = false) : n.unfolded old = [n] := by
  obtain ⟨kind, inputs, outputs, _ | sub⟩ := n
  · rfl
  · simp only [isNew, Option.any_some, decide_eq_false_iff_not, not_not] at h
    exact if_pos h

lemma unfolded_of_isNew {n : Node} (h : n.isNew old = true) {sub : Subgraph Node}
    (hsub : n.subgraph = some sub) : n.unfolded old = sub.block.nodes := by
  simp only [isNew, hsub, Option.any_some, decide_eq_true_eq] at h
  rw [unfolded, hsub]
  exact if_neg h

lemma blockIdsOf_append (ns ms : List Node) :
    blockIdsOf (ns ++ ms) = blockIdsOf ns ++ blockIdsOf ms := by
  induction ns with
  | nil => rfl
  | cons n ns ih => rw [List.cons_append, blockIdsOf, blockIdsOf, ih, List.append_assoc]

end Node

namespace Part

variable {kind : Symbol} {outputs : List ValueId} {parts : List Part} {old : List BlockId}

/-- Among the nodes of parts, those with new blocks are the fusion nodes that were made. -/
lemma filter_isNew (hold : Node.blockIdsOf (origins parts) ⊆ old)
    (hnew : ∀ n ∈ parts.filterMap created?, n.isNew old = true) :
    (parts.map node).filter (Node.isNew old) = parts.filterMap created? := by
  induction parts with
  | nil => rfl
  | cons part rest ih =>
    cases part with
    | kept n =>
      rw [origins_kept, Node.blockIdsOf, List.append_subset] at hold
      have hnode : ¬ (kept n).node.isNew old = true :=
        Bool.eq_false_iff.mp (Node.isNew_of_subset hold.1)
      rw [List.map_cons, List.filter_cons_of_neg hnode]
      exact ih hold.2 hnew
    | made n region =>
      rw [origins_made, Node.blockIdsOf_append, List.append_subset] at hold
      obtain ⟨hn, hrest⟩ := List.forall_mem_cons.mp hnew
      have hnode : (made n region).node.isNew old = true := hn
      rw [List.map_cons, List.filter_cons_of_pos hnode]
      exact congrArg (n :: ·) (ih hold.2 hrest)

/-- **Unfolding the new nodes gives back the original nodes.** -/
lemma flatMap_unfolded (h : Made kind outputs parts)
    (hold : Node.blockIdsOf (origins parts) ⊆ old)
    (hnew : ∀ n ∈ parts.filterMap created?, n.isNew old = true) :
    (parts.map node).flatMap (Node.unfolded old) = origins parts := by
  induction parts with
  | nil => rfl
  | cons part rest ih =>
    rw [List.map_cons, List.flatMap_cons]
    cases part with
    | kept n =>
      rw [origins_kept, Node.blockIdsOf, List.append_subset] at hold
      -- It may carry a block, but an old one.
      have hself : (kept n).node.unfolded old = [n] :=
        Node.unfolded_of_not_isNew (Node.isNew_of_subset hold.1)
      rw [hself, ih h hold.2 hnew, origins_kept, List.singleton_append]
    | made n region =>
      obtain ⟨⟨s, rfl⟩, hmade⟩ := h
      rw [origins_made, Node.blockIdsOf_append, List.append_subset] at hold
      obtain ⟨hn, hrest⟩ := List.forall_mem_cons.mp hnew
      rw [ih hmade hold.2 hrest, origins_made]
      exact congrArg (· ++ origins rest) (Node.unfolded_of_isNew hn rfl)

/-- **The blocks after fusion** are those before it and those of the new nodes. -/
lemma perm_blockIds (h : Made kind outputs parts) :
    (Node.blockIdsOf (parts.map node)).Perm
      ((parts.filterMap created?).filterMap Node.blockId? ++ Node.blockIdsOf (origins parts)) := by
  induction parts with
  | nil => exact List.Perm.refl []
  | cons part rest ih =>
    rw [List.map_cons, Node.blockIdsOf]
    cases part with
    | kept n =>
      rw [origins_kept, Node.blockIdsOf]
      exact ((ih h).append_left n.blockIds).trans (List.perm_append_comm_assoc _ _ _)
    | made n region =>
      obtain ⟨⟨s, rfl⟩, hmade⟩ := h
      rw [origins_made, Node.blockIdsOf_append]
      refine List.Perm.cons s.take.1 ?_
      exact ((ih hmade).append_left _).trans (List.perm_append_comm_assoc _ _ _)

end Part

/-! ### Fused graphs -/

namespace KindFuser

/-- What fusion leaves of a graph is the graph, seen through the new nodes. -/
structure Lossless (f : KindFuser) (kind : Symbol) (g : Graph) (s : BlockSupply) : Prop where
  /-- The graph takes what it took. -/
  inputs : (f.fuse kind g s).graph.inputs = g.inputs
  /-- The graph gives what it gave. -/
  outputs : (f.fuse kind g s).graph.outputs = g.outputs
  /-- The nodes of the new blocks in place of the new nodes give back the original nodes. -/
  nodes : (f.fuse kind g s).graph.nodes.flatMap (Node.unfolded g.blockIds) = g.nodes
  /-- The new nodes are those with blocks that did not exist before. -/
  created : f.created kind g s = (f.fuse kind g s).graph.nodes.filter (Node.isNew g.blockIds)
  /-- They are counted. -/
  count : (f.fuse kind g s).count = (f.created kind g s).length
  /-- Each of them is of the fusion kind and takes and gives what its block takes and gives.  That
  block is not in the graph before, and after fusion it is there once. -/
  interface : ∀ n ∈ f.created kind g s, ∃ sub,
    n = ⟨kind, sub.block.inputs, sub.block.outputs, some sub⟩ ∧
      sub.id ∉ g.blockIds ∧ (f.fuse kind g s).graph.blockIds.count sub.id = 1
  /-- Without new nodes nothing has changed. -/
  unchanged : (f.fuse kind g s).count = 0 → (f.fuse kind g s).graph = g

variable {f : KindFuser} {kind : Symbol} {g : Graph} {s : BlockSupply}

lemma eq_of_mem_created {n : Node} (hn : n ∈ f.created kind g s) :
    ∃ sub, n = ⟨kind, sub.block.inputs, sub.block.outputs, some sub⟩ := by
  obtain ⟨r, -, hstands⟩ := exists_run_of_mem_created hn
  obtain ⟨sub, hsub, -⟩ := hstands.exists_subgraph
  exact ⟨sub, hsub⟩

lemma perm_blockIds_fuse :
    (f.fuse kind g s).graph.blockIds.Perm
      (s.upcoming (f.fuse kind g s).count ++ g.blockIds) := by
  have h := Part.perm_blockIds (f.made_parts kind g s)
  rw [map_node_parts, origins_parts] at h
  rw [← blockIds_created]
  exact h

/-- **Fusion loses nothing.**  As long as the supply of identities is fresh, the new nodes can be
told from all others by their blocks, and unfolding them gives back the graph. -/
theorem fuse_lossless (h : s.Fresh (f.fuse kind g s).count g.blockIds) : f.Lossless kind g s := by
  have hmade := f.made_parts kind g s
  have hold : Node.blockIdsOf (Part.origins (f.parts kind g s)) ⊆ g.blockIds := by
    rw [origins_parts]
    exact List.Subset.refl g.blockIds
  have hupcoming : ∀ n ∈ f.created kind g s, ∀ sub, n.subgraph = some sub →
      sub.id ∈ s.upcoming (f.fuse kind g s).count := by
    intro n hn sub hsub
    rw [← blockIds_created]
    exact List.mem_filterMap.mpr ⟨n, hn, congrArg (Option.map Subgraph.id) hsub⟩
  have hnew : ∀ n ∈ f.created kind g s, n.isNew g.blockIds = true := by
    intro n hn
    obtain ⟨sub, hsub⟩ := eq_of_mem_created hn
    have hid := hupcoming n hn sub (by rw [hsub])
    exact Node.isNew_eq_true_iff.mpr ⟨sub, by rw [hsub], BlockSupply.not_mem_of_mem_upcoming h hid⟩
  refine ⟨rfl, rfl, ?_, ?_, (f.length_created kind g s).symm, ?_, ?_⟩
  · rw [← map_node_parts, Part.flatMap_unfolded hmade hold hnew, origins_parts]
  · rw [← map_node_parts]
    exact (Part.filter_isNew hold hnew).symm
  · intro n hn
    obtain ⟨sub, hsub⟩ := eq_of_mem_created hn
    have hid := hupcoming n hn sub (by rw [hsub])
    have hfresh := BlockSupply.not_mem_of_mem_upcoming h hid
    refine ⟨sub, hsub, hfresh, ?_⟩
    rw [perm_blockIds_fuse.count_eq, List.count_append, List.count_eq_zero_of_not_mem hfresh,
      List.count_eq_one_of_mem (BlockSupply.nodup_upcoming h) hid]
  · intro hzero
    rw [fuse_of_count_eq_zero hzero]

/-- Two runs around a fusion node from before, the second one at the end of the list.  The old block
stays where it is, and the new blocks have the next two identities. -/
theorem fuse_lossless_around_old_block :
    let add : Symbol := ⟨"aten", "add"⟩
    let relu : Symbol := ⟨"aten", "relu"⟩
    let kind : Symbol := ⟨"box", "fused"⟩
    let old : Subgraph Node := ⟨⟨7⟩, ⟨[⟨2⟩], [⟨add, [⟨2⟩, ⟨2⟩], [⟨3⟩], none⟩], [⟨3⟩]⟩⟩
    let g : Graph :=
      ⟨[⟨0⟩],
        [⟨relu, [⟨0⟩], [⟨1⟩], none⟩, ⟨add, [⟨0⟩, ⟨1⟩], [⟨2⟩], none⟩, ⟨kind, [⟨2⟩], [⟨3⟩], some old⟩,
          ⟨relu, [⟨3⟩], [⟨4⟩], none⟩],
        [⟨4⟩]⟩
    let f : KindFuser := ⟨[add, relu, kind], 1, []⟩
    BlockSupply.Fresh ⟨8⟩ (f.fuse kind g ⟨8⟩).count g.blockIds ∧
      (f.fuse kind g ⟨8⟩).graph.nodes.map Node.blockId? = [some ⟨8⟩, some ⟨7⟩, some ⟨9⟩] ∧
      f.Lossless kind g ⟨8⟩ := by
  intro add relu kind old g f
  have hfresh : BlockSupply.Fresh ⟨8⟩ (f.fuse kind g ⟨8⟩).count g.blockIds :=
    ⟨by decide, by decide⟩
  exact ⟨hfresh, by decide, fuse_lossless hfresh⟩

end KindFuser

end Delegation
