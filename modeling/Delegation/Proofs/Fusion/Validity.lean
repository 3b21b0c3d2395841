import Delegation.Graph.Valid
import Delegation.Proofs.Fusion.Meaning
import Delegation.Proofs.Fusion.Parts
import Mathlib.Data.List.Nodup
/-!
# Fusion keeps graphs valid

Fusion hides what a region produces and nobody needs later.  In a valid graph nothing else can go
wrong: the region reads only what was given before it, so that none of its inputs is among its own
products, and what somebody needs later is exported.

* `Part.readsKnown_node`: after fusion values are still given before they are read.  The invariant
  along the parts is that whatever a later original node reads is known on both sides, if on the
  first;
* `Region.closed_block`: the block of a region of a valid graph is closed;
* `KindFuser.valid_fuse`: fusion keeps a graph valid and creates only closed blocks.
-/

namespace Delegation

/-! ### Values that are given before they are read -/

@[simp] lemma produced_nil : produced [] = [] := rfl

@[simp] lemma produced_cons (n : Node) (ns : List Node) :
    produced (n :: ns) = n.outputs ++ produced ns := rfl

@[simp] lemma produced_append (ns ms : List Node) :
    produced (ns ++ ms) = produced ns ++ produced ms :=
  List.flatMap_append

lemma readsKnown_append {known : List ValueId} {ns ms : List Node} :
    ReadsKnown known (ns ++ ms) ↔ ReadsKnown known ns ∧ ReadsKnown (known ++ produced ns) ms := by
  induction ns generalizing known with
  | nil => simp [ReadsKnown]
  | cons n ns ih =>
    rw [List.cons_append, ReadsKnown, ReadsKnown, ih, produced_cons, List.append_assoc, and_assoc]

lemma sublist_distinct {α : Type} [DecidableEq α] (as : List α) : (distinct as).Sublist as := by
  induction as with
  | nil => exact List.Sublist.refl []
  | cons a as ih => exact (List.filter_sublist.trans ih).cons_cons a

namespace Region

/-- A region gives what it produces, in the same order, and leaves some of it out. -/
lemma sublist_outputs (ns : List Node) (needed : List ValueId) :
    (outputs ns needed).Sublist (produced ns) :=
  (sublist_distinct _).trans List.filter_sublist

/-- What nodes read from outside is known before them, apart from what is given inside. -/
lemma mem_known_of_mem_reads {known inner : List ValueId} {ns : List Node}
    (h : ReadsKnown (known ++ inner) ns) {v : ValueId} (hv : v ∈ reads inner ns) : v ∈ known := by
  induction ns generalizing inner with
  | nil => simp [reads] at hv
  | cons n ns ih =>
    rcases mem_reads_cons.mp hv with ⟨hinput, hinner⟩ | hlater
    · exact (List.mem_append.mp (h.1 v hinput)).resolve_right hinner
    · have hrest : ReadsKnown (known ++ (inner ++ n.outputs)) ns := by
        rw [← List.append_assoc]
        exact h.2
      exact ih hrest hlater

/-- Nodes read only what is given inside and what they read from outside. -/
lemma readsKnown_of_reads {known inner : List ValueId} {ns : List Node}
    (h : ∀ v ∈ reads inner ns, v ∈ known) : ReadsKnown (known ++ inner) ns := by
  induction ns generalizing inner with
  | nil => trivial
  | cons n ns ih =>
    refine ⟨?_, ?_⟩
    · intro v hv
      by_cases hinner : v ∈ inner
      · exact List.mem_append_right _ hinner
      · exact List.mem_append_left _ (h v (mem_reads_cons.mpr (Or.inl ⟨hv, hinner⟩)))
    · rw [List.append_assoc]
      exact ih fun v hv => h v (mem_reads_cons.mpr (Or.inr hv))

lemma mem_known_of_mem_inputs {known : List ValueId} {ns : List Node} (h : ReadsKnown known ns)
    {v : ValueId} (hv : v ∈ inputs ns) : v ∈ known := by
  refine mem_known_of_mem_reads ?_ (mem_inputs.mp hv)
  rw [List.append_nil]
  exact h

/-- **The block of a region is closed** when the region stands in a graph that gives each value once
and before it is read. -/
lemma closed_block {known : List ValueId} {ns : List Node} (hnodup : (known ++ produced ns).Nodup)
    (hreads : ReadsKnown known ns) (needed : List ValueId) : (block ns needed).Closed where
  single_assignment := by
    obtain ⟨-, hproduced, hdisjoint⟩ := List.nodup_append'.mp hnodup
    refine List.nodup_append'.mpr ⟨nodup_distinct _, hproduced, ?_⟩
    -- What the region takes was known before it, and so it is not produced again.
    intro v hv
    exact hdisjoint (mem_known_of_mem_inputs hreads hv)
  reads_known := by
    have h : ReadsKnown (inputs ns ++ []) ns := readsKnown_of_reads fun v hv => mem_inputs.mpr hv
    rwa [List.append_nil] at h
  outputs_produced v hv := (mem_outputs.mp hv).1

end Region

/-! ### The parts of a fused graph -/

namespace Part

open KindFuser

variable {kind : Symbol} {outputs known : List ValueId} {parts : List Part}

/-- Fusion leaves the order in which values are given as it was, and hides some of them. -/
lemma sublist_produced_node (h : Made kind outputs parts) :
    (produced (parts.map node)).Sublist (produced (origins parts)) := by
  induction parts with
  | nil => exact List.Sublist.refl []
  | cons part rest ih =>
    cases part with
    | kept n => exact (List.Sublist.refl n.outputs).append (ih h)
    | made n region =>
      obtain ⟨⟨s, rfl⟩, hrest⟩ := h
      rw [origins_made, produced_append]
      exact (Region.sublist_outputs region _).append (ih hrest)

/-- What the graph gives is not hidden. -/
lemma mem_produced_node (h : Made kind outputs parts) {v : ValueId} (hv : v ∈ outputs)
    (hproduced : v ∈ produced (origins parts)) : v ∈ produced (parts.map node) := by
  induction parts with
  | nil => exact hproduced
  | cons part rest ih =>
    rw [List.map_cons, produced_cons, List.mem_append]
    cases part with
    | kept n =>
      rw [origins_kept, produced_cons, List.mem_append] at hproduced
      exact hproduced.imp_right (ih h)
    | made n region =>
      obtain ⟨⟨s, rfl⟩, hrest⟩ := h
      rw [origins_made, produced_append, List.mem_append] at hproduced
      refine hproduced.imp (fun hregion => ?_) (ih hrest)
      exact Region.mem_outputs.mpr ⟨hregion, List.mem_append_left _ hv⟩

/-- After fusion values are still given before they are read.  On the way, the fused list may know
less than the original list, but no value that is still to be read. -/
lemma readsKnown_node {known' : List ValueId} (h : Made kind outputs parts)
    (hreads : ReadsKnown known (origins parts))
    (hknown : ∀ v ∈ known, v ∈ (origins parts).flatMap Node.inputs → v ∈ known') :
    ReadsKnown known' (parts.map node) := by
  induction parts generalizing known known' with
  | nil => trivial
  | cons part rest ih =>
    cases part with
    | kept n =>
      rw [origins_kept] at hreads hknown
      rw [List.flatMap_cons] at hknown
      refine ⟨fun v hv => hknown v (hreads.1 v hv) (List.mem_append_left _ hv), ?_⟩
      refine ih h hreads.2 ?_
      intro v hv hlater
      refine List.mem_append.mpr ((List.mem_append.mp hv).imp_left fun hold => ?_)
      exact hknown v hold (List.mem_append_right _ hlater)
    | made n region =>
      obtain ⟨⟨s, rfl⟩, hrest⟩ := h
      rw [origins_made, readsKnown_append] at hreads
      rw [origins_made, List.flatMap_append] at hknown
      refine ⟨?_, ?_⟩
      · intro v hv
        refine hknown v (Region.mem_known_of_mem_inputs hreads.1 hv) (List.mem_append_left _ ?_)
        exact Region.mem_inputs_of_mem_reads (Region.mem_inputs.mp hv)
      · refine ih hrest hreads.2 ?_
        intro v hv hlater
        -- A value of the region that is read later is among those that the region gives.
        refine List.mem_append.mpr ((List.mem_append.mp hv).imp (fun hold => ?_) fun hregion => ?_)
        · exact hknown v hold (List.mem_append_right _ hlater)
        · exact Region.mem_outputs.mpr ⟨hregion, List.mem_append_right _ hlater⟩

/-- The new nodes hold closed blocks. -/
lemma closed_of_mem_created (h : Made kind outputs parts)
    (hnodup : (known ++ produced (origins parts)).Nodup)
    (hreads : ReadsKnown known (origins parts)) {n : Node} (hn : n ∈ parts.filterMap created?) :
    ∃ sub, n.subgraph = some sub ∧ sub.block.Closed := by
  induction parts generalizing known with
  | nil => simp at hn
  | cons part rest ih =>
    cases part with
    | kept m =>
      rw [origins_kept] at hreads hnodup
      rw [produced_cons, ← List.append_assoc] at hnodup
      exact ih h hnodup hreads.2 hn
    | made m region =>
      obtain ⟨⟨s, rfl⟩, hrest⟩ := h
      rw [origins_made, readsKnown_append] at hreads
      rw [origins_made, produced_append, ← List.append_assoc] at hnodup
      rcases List.mem_cons.mp hn with rfl | hn
      · have hregion := List.Nodup.of_append_left hnodup
        exact ⟨_, rfl, Region.closed_block hregion hreads.1 _⟩
      · exact ih hrest hnodup hreads.2 hn

end Part

/-! ### Graphs -/

namespace KindFuser

/-- **Fusion keeps a graph valid**, and the block of every fusion node that it creates is closed. -/
theorem valid_fuse (f : KindFuser) (kind : Symbol) {g : Graph} (s : BlockSupply) (h : g.Valid) :
    (f.fuse kind g s).graph.Valid ∧
      (f.created kind g s).Sublist (f.fuse kind g s).graph.nodes ∧
      (f.created kind g s).length = (f.fuse kind g s).count ∧
      ∀ n ∈ f.created kind g s, ∃ sub, n.subgraph = some sub ∧ sub.block.Closed := by
  have hmade := made_parts f kind g s
  have hnodup := h.single_assignment
  have hreads := h.reads_known
  have hknown := h.outputs_known
  rw [← origins_parts f kind g s] at hnodup hreads hknown
  refine ⟨⟨?_, ?_, ?_⟩, sublist_created f kind g s, length_created f kind g s, ?_⟩
  · rw [← map_node_parts]
    exact hnodup.sublist ((List.Sublist.refl g.inputs).append (Part.sublist_produced_node hmade))
  · rw [← map_node_parts]
    exact Part.readsKnown_node hmade hreads fun v hv _ => hv
  · intro v hv
    rw [← map_node_parts]
    refine List.mem_append.mpr ((List.mem_append.mp (hknown v hv)).imp_right fun hproduced => ?_)
    exact Part.mem_produced_node hmade hv hproduced
  · intro n hn
    exact Part.closed_of_mem_created hmade hnodup hreads hn

/-- Two regions with a node between them that no fuser supports.  The first region gives a value
that the graph gives and one that the node reads; what the second region uses up stays hidden. -/
theorem valid_fuse_two_regions :
    let add : Symbol := ⟨"aten", "add"⟩
    let relu : Symbol := ⟨"aten", "relu"⟩
    let sort : Symbol := ⟨"aten", "sort"⟩
    let g : Graph :=
      ⟨[⟨0⟩, ⟨1⟩],
        [⟨add, [⟨0⟩, ⟨1⟩], [⟨2⟩], none⟩, ⟨relu, [⟨2⟩], [⟨3⟩], none⟩, ⟨sort, [⟨3⟩], [⟨4⟩], none⟩,
          ⟨relu, [⟨4⟩], [⟨5⟩], none⟩, ⟨relu, [⟨5⟩], [⟨6⟩], none⟩],
        [⟨6⟩, ⟨2⟩]⟩
    let f : KindFuser := ⟨[add, relu], 1, []⟩
    let kind : Symbol := ⟨"box", "fused"⟩
    g.Valid ∧ (f.created kind g ⟨0⟩).map Node.outputs = [[⟨2⟩, ⟨3⟩], [⟨6⟩]] ∧
      (f.fuse kind g ⟨0⟩).graph.Valid ∧
      (f.created kind g ⟨0⟩).Sublist (f.fuse kind g ⟨0⟩).graph.nodes ∧
      (f.created kind g ⟨0⟩).length = (f.fuse kind g ⟨0⟩).count ∧
      ∀ n ∈ f.created kind g ⟨0⟩, ∃ sub, n.subgraph = some sub ∧ sub.block.Closed := by
  intro add relu sort g f kind
  have hvalid : g.Valid := ⟨by decide, by simp [g, ReadsKnown], by decide⟩
  exact ⟨hvalid, by decide, valid_fuse f kind ⟨0⟩ hvalid⟩

end KindFuser

end Delegation
