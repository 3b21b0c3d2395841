import Delegation.Proofs.Fusion.Selection
import Mathlib.Data.List.Forall2
import Mathlib.Data.List.Nodup
/-!
# New fusion nodes and their runs

The new fusion nodes of a graph correspond, one by one and in order, to the runs that were chosen.

* `KindFuser.forall₂_created`: each new node is what fusion makes of the nodes of its run, when what
  is needed later is what the graph gives and what the nodes after the run read;
* `KindFuser.count_fuse`: there are as many of them as runs;
* `KindFuser.fuse_of_count_eq_zero`: where there are none, fusion changes nothing.

The identities of their blocks are drawn from the supply one after the other
(`KindFuser.blockIds_created`).
-/

namespace Delegation

/-! ### The nodes of a run -/

/-- The node stands for the nodes between two positions of a graph. -/
def StandsFor (kind : Symbol) (g : Graph) (n : Node) (run : Nat × Nat) : Prop :=
  ∃ s, n = (KindFuser.fusionNode kind (g.nodes.extract run.1 run.2)
    (g.outputs ++ (g.nodes.drop run.2).flatMap Node.inputs) s).1

/-- A node that stands for a run is of the fusion kind, takes and gives what its block takes and
gives, and that block is the region of the run. -/
lemma StandsFor.exists_subgraph {kind : Symbol} {g : Graph} {n : Node} {run : Nat × Nat}
    (h : StandsFor kind g n run) :
    ∃ sub, n = ⟨kind, sub.block.inputs, sub.block.outputs, some sub⟩ ∧
      sub.block = Region.block (g.nodes.extract run.1 run.2)
        (g.outputs ++ (g.nodes.drop run.2).flatMap Node.inputs) := by
  obtain ⟨s, rfl⟩ := h
  exact ⟨(s.subgraph (Region.block _ _)).1, rfl, rfl⟩

namespace Part

variable {kind : Symbol} {outputs : List ValueId} {parts : List Part}

/-- The new nodes among the parts at the end of a node list stand for the regions that the parts
show. -/
lemma forall₂_created (h : Made kind outputs parts) (before : List Node) {g : Graph}
    (houtputs : g.outputs = outputs) (hnodes : g.nodes = before ++ origins parts) :
    List.Forall₂ (StandsFor kind g) (parts.filterMap created?) (spans before.length parts) := by
  induction parts generalizing before with
  | nil => exact List.Forall₂.nil
  | cons part rest ih =>
    cases part with
    | kept n =>
      have hrest := ih h (before ++ [n]) (by rw [hnodes, origins_kept, List.append_cons])
      rw [List.length_append, List.length_singleton] at hrest
      exact hrest
    | made n region =>
      obtain ⟨⟨s, rfl⟩, hmade⟩ := h
      rw [origins_made, ← List.append_assoc] at hnodes
      have hrest := ih hmade (before ++ region) hnodes
      rw [List.length_append] at hrest
      refine List.Forall₂.cons ⟨s, ?_⟩ hrest
      have hregion : g.nodes.extract before.length (before.length + region.length) = region := by
        rw [hnodes, List.append_assoc, List.extract_eq_take_drop, List.drop_left,
          Nat.add_sub_cancel_left, List.take_left]
      have hlater : g.nodes.drop (before.length + region.length) = origins rest := by
        rw [hnodes, ← List.length_append, List.drop_left]
      rw [hregion, hlater, houtputs]

/-- Parts without new nodes hold the same nodes before and after fusion. -/
lemma map_node_eq_origins (h : parts.filterMap created? = []) : parts.map node = origins parts := by
  induction parts with
  | nil => rfl
  | cons part rest ih =>
    cases part with
    | kept n => exact congrArg (n :: ·) (ih h)
    | made n region => cases h

end Part

/-! ### The identities of new blocks -/

/-- The identity of the block that a node carries. -/
def Node.blockId? (n : Node) : Option BlockId :=
  n.subgraph.map Subgraph.id

namespace BlockSupply

/-- The identities that a supply gives next. -/
def upcoming (s : BlockSupply) (count : Nat) : List BlockId :=
  (List.range' s.next count).map fun address => ⟨UInt64.ofNat address⟩

lemma upcoming_succ (s : BlockSupply) (count : Nat) :
    s.upcoming (count + 1) = s.take.1 :: s.take.2.upcoming count := rfl

variable {s : BlockSupply} {count : Nat} {used : List BlockId}

/-- What a supply gives next lies between what it has given and what it can give at all. -/
lemma address_of_mem_upcoming (h : s.Fresh count used) {id : BlockId}
    (hid : id ∈ s.upcoming count) : s.next ≤ id.address.toNat := by
  obtain ⟨address, haddress, rfl⟩ := List.mem_map.mp hid
  have hsize := h.2
  have hrange := List.mem_range'_1.mp haddress
  -- All addresses are in range, so none of them wraps around.
  show s.next ≤ (UInt64.ofNat address).toNat
  rw [UInt64.toNat_ofNat_of_lt' (by omega)]
  exact hrange.1

/-- A fresh supply gives no identity that is used. -/
lemma not_mem_of_mem_upcoming (h : s.Fresh count used) {id : BlockId}
    (hid : id ∈ s.upcoming count) : id ∉ used := by
  intro hused
  have hlower := address_of_mem_upcoming h hid
  have hupper := h.1 id hused
  omega

/-- A fresh supply gives no identity twice. -/
lemma nodup_upcoming (h : s.Fresh count used) : (s.upcoming count).Nodup := by
  have hsize := h.2
  refine List.Nodup.map_on ?_ List.nodup_range'
  intro a ha b hb heq
  have hrangea := List.mem_range'_1.mp ha
  have hrangeb := List.mem_range'_1.mp hb
  have haddress : (UInt64.ofNat a).toNat = (UInt64.ofNat b).toNat :=
    congrArg (fun id : BlockId => id.address.toNat) heq
  rw [UInt64.toNat_ofNat_of_lt' (by omega), UInt64.toNat_ofNat_of_lt' (by omega)] at haddress
  exact haddress

end BlockSupply

namespace KindFuser

lemma blockIds_created_partsOf (floor : Nat) (kind : Symbol) (outputs : List ValueId)
    (segments : List Segment) (s : BlockSupply) :
    ((partsOf floor kind outputs segments s).filterMap Part.created?).filterMap Node.blockId? =
      s.upcoming (fuseSegments floor kind outputs segments s).count := by
  induction segments generalizing s with
  | nil => rfl
  | cons segment rest ih =>
    cases segment with
    | kept n => simp only [partsOf, fuseSegments, List.filterMap_cons, Part.created?, ih]
    | run ns =>
      by_cases hlong : floor ≤ ns.length
      · rw [partsOf, if_pos hlong, fuseSegments, if_pos hlong, BlockSupply.upcoming_succ]
        exact congrArg (s.take.1 :: ·) (ih s.take.2)
      · simp only [partsOf, fuseSegments, if_neg hlong, List.filterMap_append,
          Part.filterMap_created_map_kept, List.nil_append, ih]

lemma supply_fuseSegments (floor : Nat) (kind : Symbol) (outputs : List ValueId)
    (segments : List Segment) (s : BlockSupply) :
    (fuseSegments floor kind outputs segments s).supply =
      ⟨s.next + (fuseSegments floor kind outputs segments s).count⟩ := by
  induction segments generalizing s with
  | nil => rfl
  | cons segment rest ih =>
    cases segment with
    | kept n => exact ih s
    | run ns =>
      by_cases hlong : floor ≤ ns.length
      · have hrest := ih s.take.2
        simp only [fuseSegments, if_pos hlong]
        refine hrest.trans (congrArg BlockSupply.mk ?_)
        show s.next + 1 + _ = s.next + (_ + 1)
        rw [Nat.add_assoc, Nat.add_comm 1]
        rfl
      · simp only [fuseSegments, if_neg hlong, ih]

/-! ### Graphs -/

variable (f : KindFuser) (kind : Symbol) (g : Graph) (s : BlockSupply)

/-- **Each new node stands for its run.** -/
lemma forall₂_created :
    List.Forall₂ (StandsFor kind g) (f.created kind g s) (f.candidateRuns kind g.nodes) := by
  rw [← f.spans_parts kind g s]
  exact Part.forall₂_created (f.made_parts kind g s) [] rfl (f.origins_parts kind g s).symm

lemma count_fuse : (f.fuse kind g s).count = (f.candidateRuns kind g.nodes).length := by
  rw [← length_created]
  exact (f.forall₂_created kind g s).length_eq

/-- The identities of the new blocks are those that the supply gives next, in order. -/
lemma blockIds_created :
    (f.created kind g s).filterMap Node.blockId? = s.upcoming (f.fuse kind g s).count :=
  blockIds_created_partsOf _ _ _ _ _

lemma supply_fuse : (f.fuse kind g s).supply = ⟨s.next + (f.fuse kind g s).count⟩ :=
  supply_fuseSegments _ _ _ _ _

variable {f kind g s}

lemma exists_run_of_mem_created {n : Node} (hn : n ∈ f.created kind g s) :
    ∃ r ∈ f.candidateRuns kind g.nodes, StandsFor kind g n r := by
  have h := f.forall₂_created kind g s
  obtain ⟨i, hi, rfl⟩ := List.mem_iff_getElem.mp hn
  have hi' : i < (f.candidateRuns kind g.nodes).length := h.length_eq ▸ hi
  exact ⟨_, List.getElem_mem hi', h.get hi hi'⟩

/-- The nodes of a run that was chosen are nodes of the graph, and fusible. -/
lemma fusible_of_mem_run {run : Nat × Nat} (hrun : run ∈ f.candidateRuns kind g.nodes) {n : Node}
    (hn : n ∈ g.nodes.extract run.1 run.2) : n ∈ g.nodes ∧ f.Fusible kind n := by
  obtain ⟨k, hk⟩ := List.mem_iff_getElem?.mp hn
  rw [List.extract_eq_take_drop] at hk
  have hlt : k < run.2 - run.1 := by
    have hlen := (List.getElem?_eq_some_iff.mp hk).1
    rw [List.length_take] at hlen
    omega
  rw [List.getElem?_take_of_lt hlt, List.getElem?_drop] at hk
  have hpasses := (mem_candidateRuns.mp hrun).1.passes
  exact ⟨List.mem_of_getElem? hk, hpasses (run.1 + k) n (by omega) (by omega) hk⟩

/-- **Fusion that creates nothing changes nothing.** -/
lemma fuse_of_count_eq_zero (h : (f.fuse kind g s).count = 0) : f.fuse kind g s = ⟨g, 0, s⟩ := by
  have hcreated : f.created kind g s = [] := by
    rw [← List.length_eq_zero_iff, length_created, h]
  have hnodes : (f.fuse kind g s).graph.nodes = g.nodes := by
    rw [← map_node_parts, Part.map_node_eq_origins hcreated, origins_parts]
  have hgraph : (f.fuse kind g s).graph = g := by
    show Graph.mk g.inputs (f.fuse kind g s).graph.nodes g.outputs = g
    rw [hnodes]
  have hsupply : (f.fuse kind g s).supply = s := by
    rw [supply_fuse, h]
    rfl
  show Fusion.mk (f.fuse kind g s).graph (f.fuse kind g s).count (f.fuse kind g s).supply = _
  rw [hgraph, h, hsupply]

end KindFuser

end Delegation
