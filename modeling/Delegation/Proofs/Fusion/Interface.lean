import Delegation.Proofs.Fusion.Regions
/-!
# The interface of a fusion node

A fusion node takes the values that its run uses before any node of the run could have given them,
and gives the values that its run produces and that are needed after it.  Both are said by places:
a place is the position of a node in the run together with a position among the inputs or outputs of
that node, and places are in the order in which a reader meets them.

* `Enumerates At vs`: the list holds the values that `At` puts at places, one for each place, in
  order.  The lists from which a region computes its interface do (`enumerates_reads`,
  `enumerates_produced`);
* `ListsFirsts At vs`: the list holds each of these values once, in the order in which they occur
  first.  This is what remains without the repetitions (`Enumerates.distinct`);
* `KindFuser.interfaces_created`: inputs and outputs of every new fusion node are such lists.

Nothing is assumed about the graph: values may be produced several times, also within one run.
-/

namespace Delegation

/-! ### Places -/

/-- A place in a node list at which a value is named. -/
structure Place where
  /-- The position of the node. -/
  node : Nat
  /-- The position among the inputs or the outputs of the node. -/
  slot : Nat

namespace Place

/-- The first place is met before the second one. -/
def Before (p q : Place) : Prop :=
  p.node < q.node ∨ p.node = q.node ∧ p.slot < q.slot

/-- The same place after a node was put in front. -/
def later (p : Place) : Place :=
  ⟨p.node + 1, p.slot⟩

lemma Before.later {p q : Place} (h : p.Before q) : p.later.Before q.later := by
  rcases h with hnode | ⟨hnode, hslot⟩
  · exact Or.inl (Nat.succ_lt_succ hnode)
  · exact Or.inr ⟨congrArg Nat.succ hnode, hslot⟩

end Place

/-- The list holds the values that `At` puts at places, each of them once and in the order in which
they occur first: of two values, the earlier one has a place before all places of the later one. -/
structure ListsFirsts (At : Place → ValueId → Prop) (vs : List ValueId) : Prop where
  /-- No value is listed twice. -/
  nodup : vs.Nodup
  /-- The values at places are listed, and no others. -/
  mem_iff : ∀ v, v ∈ vs ↔ ∃ p, At p v
  /-- They are in the order of their first places. -/
  ordered : vs.Pairwise fun v w => ∃ p, At p v ∧ ∀ q, At q w → p.Before q

/-- The list holds the values that `At` puts at places, one for each place and in order. -/
def Enumerates (At : Place → ValueId → Prop) (vs : List ValueId) : Prop :=
  ∃ marked : List (Place × ValueId), marked.map Prod.snd = vs ∧
    marked.Pairwise (fun x y => x.1.Before y.1) ∧ ∀ p v, (p, v) ∈ marked ↔ At p v

/-! ### Lists that enumerate places -/

namespace Enumerates

variable {At At' : Place → ValueId → Prop} {vs vs' : List ValueId}

lemma congr (h : Enumerates At vs) (heq : ∀ p v, At p v ↔ At' p v) : Enumerates At' vs := by
  obtain ⟨marked, hvalues, hordered, hmem⟩ := h
  exact ⟨marked, hvalues, hordered, fun p v => (hmem p v).trans (heq p v)⟩

lemma nil : Enumerates (fun _ _ => False) [] :=
  ⟨[], rfl, List.Pairwise.nil, by simp⟩

/-- The members of a list are at the slots of the first node. -/
lemma slots (vs : List ValueId) :
    Enumerates (fun p v => p.node = 0 ∧ vs[p.slot]? = some v) vs := by
  refine ⟨vs.zipIdx.map fun x => (⟨0, x.2⟩, x.1), ?_, ?_, ?_⟩
  · rw [List.map_map]
    exact List.zipIdx_map_fst 0 vs
  · rw [List.pairwise_map]
    have hslots : (vs.zipIdx.map Prod.snd).Pairwise (· < ·) := by
      rw [List.zipIdx_map_snd]
      exact List.pairwise_lt_range'
    exact (List.pairwise_map.mp hslots).imp fun hlt => Or.inr ⟨rfl, hlt⟩
  · rintro ⟨node, slot⟩ v
    simp only [List.mem_map, Prod.mk.injEq, Place.mk.injEq, Prod.exists,
      List.mem_zipIdx_iff_getElem?]
    constructor
    · rintro ⟨w, i, hw, ⟨rfl, rfl⟩, rfl⟩
      exact ⟨rfl, hw⟩
    · rintro ⟨rfl, hv⟩
      exact ⟨v, slot, hv, ⟨rfl, rfl⟩, rfl⟩

lemma filter (h : Enumerates At vs) (P : ValueId → Prop) [DecidablePred P] :
    Enumerates (fun p v => At p v ∧ P v) (vs.filter P) := by
  obtain ⟨marked, rfl, hordered, hmem⟩ := h
  refine ⟨marked.filter fun x => P x.2, ?_, hordered.filter _, ?_⟩
  · rw [List.filter_map]
    rfl
  · intro p v
    rw [List.mem_filter, hmem, decide_eq_true_eq]

/-- A node in front moves all places by one node. -/
lemma later (h : Enumerates At vs) :
    Enumerates (fun p v => ∃ q : Place, p = q.later ∧ At q v) vs := by
  obtain ⟨marked, rfl, hordered, hmem⟩ := h
  refine ⟨marked.map fun x => (x.1.later, x.2), ?_, ?_, ?_⟩
  · rw [List.map_map]
    rfl
  · rw [List.pairwise_map]
    exact hordered.imp Place.Before.later
  · intro p v
    simp only [List.mem_map, Prod.mk.injEq, Prod.exists, hmem]
    constructor
    · rintro ⟨q, w, hw, rfl, rfl⟩
      exact ⟨q, rfl, hw⟩
    · rintro ⟨q, rfl, hv⟩
      exact ⟨q, v, hv, rfl, rfl⟩

lemma append (h : Enumerates At vs) (h' : Enumerates At' vs')
    (hbefore : ∀ p v q w, At p v → At' q w → p.Before q) :
    Enumerates (fun p v => At p v ∨ At' p v) (vs ++ vs') := by
  obtain ⟨marked, rfl, hordered, hmem⟩ := h
  obtain ⟨marked', rfl, hordered', hmem'⟩ := h'
  refine ⟨marked ++ marked', List.map_append, ?_, ?_⟩
  · refine List.pairwise_append.mpr ⟨hordered, hordered', ?_⟩
    rintro ⟨p, v⟩ hx ⟨q, w⟩ hy
    exact hbefore p v q w ((hmem p v).mp hx) ((hmem' q w).mp hy)
  · intro p v
    rw [List.mem_append, hmem, hmem']

/-- What stands at the first node comes before what stands at later nodes. -/
lemma cons_node (h : Enumerates (fun p v => p.node = 0 ∧ At p v) vs) (h' : Enumerates At' vs') :
    Enumerates (fun p v => p.node = 0 ∧ At p v ∨ ∃ q : Place, p = q.later ∧ At' q v)
      (vs ++ vs') := by
  refine h.append h'.later ?_
  rintro p v q w ⟨hnode, -⟩ ⟨q, rfl, -⟩
  refine Or.inl ?_
  rw [hnode]
  exact Nat.succ_pos q.node

/-- Of two values that are left without repetitions, the earlier one stands before all occurrences
of the later one. -/
lemma pairwise_distinct {marked : List (Place × ValueId)}
    (h : marked.Pairwise fun x y => x.1.Before y.1) :
    (Delegation.distinct (marked.map Prod.snd)).Pairwise fun v w =>
      ∃ p, (p, v) ∈ marked ∧ ∀ q, (q, w) ∈ marked → p.Before q := by
  induction marked with
  | nil => exact List.Pairwise.nil
  | cons x rest ih =>
    -- The values left in the rest differ from that of `x`, so none of them occurs at `x`.
    obtain ⟨hfirst, hrest⟩ := List.pairwise_cons.mp h
    refine List.Pairwise.cons ?_ ?_
    · intro w hw
      have hne : w ≠ x.2 := of_decide_eq_true (List.mem_filter.mp hw).2
      refine ⟨x.1, List.mem_cons_self, ?_⟩
      intro q hq
      rcases List.mem_cons.mp hq with rfl | hq
      · exact absurd rfl hne
      · exact hfirst _ hq
    · refine ((ih hrest).filter _).imp_of_mem ?_
      rintro v w - hw ⟨p, hp, hbefore⟩
      have hne : w ≠ x.2 := of_decide_eq_true (List.mem_filter.mp hw).2
      refine ⟨p, List.mem_cons_of_mem x hp, ?_⟩
      intro q hq
      rcases List.mem_cons.mp hq with rfl | hq
      · exact absurd rfl hne
      · exact hbefore q hq

/-- **Without repetitions, a list of the values at places is one of first occurrences.** -/
lemma distinct (h : Enumerates At vs) : ListsFirsts At (Delegation.distinct vs) := by
  obtain ⟨marked, rfl, hordered, hmem⟩ := h
  refine ⟨nodup_distinct _, ?_, ?_⟩
  · intro v
    rw [mem_distinct, List.mem_map]
    constructor
    · rintro ⟨⟨p, v⟩, hp, rfl⟩
      exact ⟨p, (hmem p v).mp hp⟩
    · rintro ⟨p, hp⟩
      exact ⟨(p, v), (hmem p v).mpr hp, rfl⟩
  · have h := pairwise_distinct hordered
    simp only [hmem] at h
    exact h

end Enumerates

/-! ### Uses and productions -/

/-- At the place, a node of the list uses the value, and no strictly earlier node of the list
produces it. -/
structure UsedAt (ns : List Node) (p : Place) (v : ValueId) : Prop where
  /-- The node has the value among its inputs. -/
  used : ∃ n, ns[p.node]? = some n ∧ n.inputs[p.slot]? = some v
  /-- No node before it has the value among its outputs. -/
  not_given : ∀ k n, k < p.node → ns[k]? = some n → v ∉ n.outputs

/-- At the place, a node of the list produces the value. -/
def ProducedAt (ns : List Node) (p : Place) (v : ValueId) : Prop :=
  ∃ n, ns[p.node]? = some n ∧ n.outputs[p.slot]? = some v

/-- The value is given by the graph, or used by a node at or after a position. -/
def NeededFrom (g : Graph) (position : Nat) (v : ValueId) : Prop :=
  v ∈ g.outputs ∨ ∃ m ∈ g.nodes.drop position, v ∈ m.inputs

lemma usedAt_cons_iff {n : Node} {ns : List Node} {p : Place} {v : ValueId} :
    UsedAt (n :: ns) p v ↔
      (p.node = 0 ∧ n.inputs[p.slot]? = some v) ∨
        ∃ q : Place, p = q.later ∧ UsedAt ns q v ∧ v ∉ n.outputs := by
  obtain ⟨_ | node, slot⟩ := p
  · constructor
    · rintro ⟨⟨m, hm, hv⟩, -⟩
      cases hm
      exact Or.inl ⟨rfl, hv⟩
    · rintro (⟨-, hv⟩ | ⟨q, hq, -⟩)
      · exact ⟨⟨n, rfl, hv⟩, fun k _ hk => absurd hk (Nat.not_lt_zero k)⟩
      · cases hq
  · constructor
    · rintro ⟨hused, hnot⟩
      refine Or.inr ⟨⟨node, slot⟩, rfl, ⟨hused, ?_⟩, hnot 0 n (Nat.succ_pos node) rfl⟩
      intro k m hk hm
      exact hnot (k + 1) m (Nat.succ_lt_succ hk) hm
    · rintro (⟨hnode, -⟩ | ⟨q, hq, ⟨hused, hnot⟩, hfirst⟩)
      · cases hnode
      · cases hq
        refine ⟨hused, ?_⟩
        rintro (_ | k) m hk hm
        · cases hm
          exact hfirst
        · exact hnot k m (Nat.lt_of_succ_lt_succ hk) hm

lemma producedAt_cons_iff {n : Node} {ns : List Node} {p : Place} {v : ValueId} :
    ProducedAt (n :: ns) p v ↔
      (p.node = 0 ∧ n.outputs[p.slot]? = some v) ∨
        ∃ q : Place, p = q.later ∧ ProducedAt ns q v := by
  obtain ⟨_ | node, slot⟩ := p
  · constructor
    · rintro ⟨m, hm, hv⟩
      cases hm
      exact Or.inl ⟨rfl, hv⟩
    · rintro (⟨-, hv⟩ | ⟨q, hq, -⟩)
      · exact ⟨n, rfl, hv⟩
      · cases hq
  · constructor
    · intro h
      exact Or.inr ⟨⟨node, slot⟩, rfl, h⟩
    · rintro (⟨hnode, -⟩ | ⟨q, hq, h⟩)
      · cases hnode
      · cases hq
        exact h

/-- **What a region reads from outside** is what its nodes use before any of them produces it. -/
lemma enumerates_reads (ns : List Node) (known : List ValueId) :
    Enumerates (fun p v => UsedAt ns p v ∧ v ∉ known) (Region.reads known ns) := by
  induction ns generalizing known with
  | nil =>
    refine Enumerates.nil.congr fun p v => ⟨False.elim, ?_⟩
    rintro ⟨⟨⟨n, hn, -⟩, -⟩, -⟩
    cases hn
  | cons n ns ih =>
    have hfirst := ((Enumerates.slots n.inputs).filter (· ∉ known)).congr fun p v => and_assoc
    refine (hfirst.cons_node (ih (known ++ n.outputs))).congr fun p v => ?_
    -- At a later node, what is not known by then is neither known before nor given by `n`.
    rw [usedAt_cons_iff, or_and_right, ← exists_and_right]
    refine or_congr and_assoc.symm (exists_congr fun q => ?_)
    rw [List.mem_append, not_or]
    tauto

lemma enumerates_produced (ns : List Node) : Enumerates (ProducedAt ns) (produced ns) := by
  induction ns with
  | nil =>
    refine Enumerates.nil.congr fun p v => ⟨False.elim, ?_⟩
    rintro ⟨n, hn, -⟩
    cases hn
  | cons n ns ih =>
    exact ((Enumerates.slots n.outputs).cons_node ih).congr fun p v => producedAt_cons_iff.symm

/-! ### Fusion nodes -/

/-- The node has the interface of the run between two positions of a graph, and holds its nodes. -/
structure Interface (g : Graph) (n : Node) (run : Nat × Nat) : Prop where
  /-- The block of the node holds the nodes of the run. -/
  region : ∃ sub, n.subgraph = some sub ∧ sub.block.nodes = g.nodes.extract run.1 run.2
  /-- It takes what the run uses before any node of the run produces it, in the order of first such
  use. -/
  inputs : ListsFirsts (UsedAt (g.nodes.extract run.1 run.2)) n.inputs
  /-- It gives what the run produces and what is needed after it, in the order of first
  production. -/
  outputs : ListsFirsts
    (fun p v => ProducedAt (g.nodes.extract run.1 run.2) p v ∧ NeededFrom g run.2 v) n.outputs

lemma StandsFor.interface {kind : Symbol} {g : Graph} {n : Node} {run : Nat × Nat}
    (h : StandsFor kind g n run) : Interface g n run := by
  obtain ⟨⟨id, block⟩, rfl, rfl⟩ := h.exists_subgraph
  refine ⟨⟨_, rfl, rfl⟩, ?_, ?_⟩
  · have hreads := (enumerates_reads (g.nodes.extract run.1 run.2) []).congr fun p v =>
      and_iff_left List.not_mem_nil
    exact hreads.distinct
  · have hneeded : ∀ v, v ∈ g.outputs ++ (g.nodes.drop run.2).flatMap Node.inputs ↔
        NeededFrom g run.2 v := by
      intro v
      rw [List.mem_append, List.mem_flatMap, NeededFrom]
    have hproduced := ((enumerates_produced (g.nodes.extract run.1 run.2)).filter
      (· ∈ g.outputs ++ (g.nodes.drop run.2).flatMap Node.inputs)).congr fun p v =>
        and_congr_right fun _ => hneeded v
    exact hproduced.distinct

namespace KindFuser

/-- **Fusion nodes have the least interface.**  The new fusion nodes correspond to the runs that
were chosen, and each of them has exactly the inputs and outputs that its run needs. -/
theorem interfaces_created (f : KindFuser) (kind : Symbol) (g : Graph) (s : BlockSupply) :
    (f.created kind g s).Sublist (f.fuse kind g s).graph.nodes ∧
      (f.created kind g s).length = (f.fuse kind g s).count ∧
      List.Forall₂ (Interface g) (f.created kind g s) (f.candidateRuns kind g.nodes) :=
  ⟨f.sublist_created kind g s, f.length_created kind g s,
    (f.forall₂_created kind g s).imp fun _ _ h => h.interface⟩

/-- Value 0 is used before the run produces it, and value 1 is produced twice. -/
example :
    let add : Symbol := ⟨"aten", "add"⟩
    let mul : Symbol := ⟨"aten", "mul"⟩
    let sort : Symbol := ⟨"aten", "sort"⟩
    let g : Graph :=
      ⟨[⟨0⟩, ⟨2⟩, ⟨3⟩],
        [⟨mul, [⟨0⟩, ⟨0⟩], [⟨1⟩], none⟩, ⟨add, [⟨1⟩, ⟨2⟩], [⟨0⟩], none⟩,
          ⟨mul, [⟨0⟩, ⟨3⟩], [⟨1⟩], none⟩, ⟨sort, [⟨0⟩], [⟨4⟩], none⟩],
        [⟨1⟩]⟩
    let f : KindFuser := { supported := [add, mul] }
    (f.created ⟨"box", "fused"⟩ g ⟨0⟩).map (fun n => (n.inputs, n.outputs)) =
      [([⟨0⟩, ⟨2⟩, ⟨3⟩], [⟨1⟩, ⟨0⟩])] := by
  decide

end KindFuser

end Delegation
