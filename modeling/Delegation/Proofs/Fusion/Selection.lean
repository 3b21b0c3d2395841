import Delegation.Proofs.Fusion.MaximalRuns
import Delegation.Proofs.Fusion.Parts
import Delegation.Proofs.Fusion.Scan
/-!
# Which nodes are fused

A fuser takes the maximal runs of fusible nodes that are long enough, and nothing else.  A node is
fusible when its kind is supported, is not the fusion kind and is not blacklisted, and when it
carries no subgraph (`KindFuser.Fusible`).

* `KindFuser.SelectsRuns` says this of the positions of the runs in a node list;
* `KindFuser.Absorbs` says it of the single nodes of a graph: a fusible node is inside a new block
  exactly when its maximal run is long enough, and other nodes never are.

That fusion takes the runs at these positions is `KindFuser.spans_parts`.
-/

namespace Delegation

/-! ### Where regions lie -/

namespace Part

/-- The positions of the regions of new fusion nodes, each as the position of its first node and the
position after its last one. -/
def spans : Nat → List Part → List (Nat × Nat)
  | _, [] => []
  | offset, kept _ :: rest => spans (offset + 1) rest
  | offset, made _ region :: rest =>
    (offset, offset + region.length) :: spans (offset + region.length) rest

lemma spans_map_kept (offset : Nat) (ns : List Node) (rest : List Part) :
    spans offset (ns.map kept ++ rest) = spans (offset + ns.length) rest := by
  induction ns generalizing offset with
  | nil => rfl
  | cons n ns ih =>
    rw [List.map_cons, List.cons_append, spans, ih, List.length_cons, Nat.add_assoc,
      Nat.add_comm 1]

lemma mem_spans {offset : Nat} {parts : List Part} {a b : Nat} :
    (a, b) ∈ spans offset parts ↔
      ∃ before n region after, parts = before ++ made n region :: after ∧
        a = offset + (origins before).length ∧ b = a + region.length := by
  induction parts generalizing offset with
  | nil => simp [spans]
  | cons part rest ih =>
    cases part with
    | kept m =>
      rw [spans, ih]
      constructor
      · rintro ⟨before, n, region, after, rfl, rfl, rfl⟩
        refine ⟨kept m :: before, n, region, after, rfl, ?_, rfl⟩
        rw [origins_kept, List.length_cons]
        omega
      · rintro ⟨before, n, region, after, heq, rfl, rfl⟩
        cases before with
        | nil => cases heq
        | cons first before =>
          obtain ⟨rfl, rfl⟩ := List.cons.inj heq
          refine ⟨before, n, region, after, rfl, ?_, rfl⟩
          rw [origins_kept, List.length_cons]
          omega
    | made m inner =>
      rw [spans, List.mem_cons, ih]
      constructor
      · rintro (heq | ⟨before, n, region, after, rfl, rfl, rfl⟩)
        · obtain ⟨rfl, rfl⟩ := Prod.mk.inj heq
          exact ⟨[], m, inner, rest, rfl, rfl, rfl⟩
        · refine ⟨made m inner :: before, n, region, after, rfl, ?_, rfl⟩
          rw [origins_made, List.length_append]
          omega
      · rintro ⟨before, n, region, after, heq, rfl, rfl⟩
        cases before with
        | nil =>
          cases heq
          exact Or.inl rfl
        | cons first before =>
          obtain ⟨rfl, rfl⟩ := List.cons.inj heq
          refine Or.inr ⟨before, n, region, after, rfl, ?_, rfl⟩
          rw [origins_made, List.length_append]
          omega

/-- The block of a new fusion node holds its region. -/
lemma Made.exists_subgraph {kind : Symbol} {outputs : List ValueId} {before after : List Part}
    {n : Node} {region : List Node} (h : Made kind outputs (before ++ made n region :: after)) :
    ∃ sub, n.subgraph = some sub ∧ sub.block.nodes = region := by
  induction before with
  | nil =>
    obtain ⟨⟨s, rfl⟩, -⟩ := h
    exact ⟨_, rfl, rfl⟩
  | cons part before ih =>
    cases part with
    | kept m => exact ih h
    | made m inner => exact ih h.2

end Part

namespace KindFuser

/-! ### Fusible nodes -/

/-- The node may become part of a fusion node of the given kind. -/
structure Fusible (f : KindFuser) (kind : Symbol) (n : Node) : Prop where
  /-- Its kind is supported. -/
  supported : n.kind ∈ f.supported
  /-- It is not a fusion node of that kind. -/
  other_kind : n.kind ≠ kind
  /-- Its kind is not on the blacklist. -/
  allowed : n.kind.qualified ∉ f.blacklist
  /-- It carries no subgraph. -/
  plain : n.subgraph = none

variable {f : KindFuser} {kind : Symbol}

lemma isFusible_iff {n : Node} : f.isFusible kind n = true ↔ f.Fusible kind n := by
  simp only [isFusible, Bool.and_eq_true, decide_eq_true_eq, Bool.not_eq_true',
    Option.isNone_iff_eq_none, List.contains_iff_mem, ← Bool.not_eq_true]
  constructor
  · rintro ⟨⟨⟨hkind, hplain⟩, hsupported⟩, hallowed⟩
    exact ⟨hsupported, hkind, hallowed, hplain⟩
  · rintro ⟨hsupported, hkind, hallowed, hplain⟩
    exact ⟨⟨⟨hkind, hplain⟩, hsupported⟩, hallowed⟩

lemma separated_segments (f : KindFuser) (kind : Symbol) (ns : List Node) :
    Segment.Separated (f.Fusible kind) (f.segments kind ns) := by
  have h := Segment.separated_ofNodes (f.isFusible kind) ns
  simp only [isFusible_iff] at h
  exact h

/-- The runs that are fused are the long ones among the segments. -/
lemma candidateRuns_eq (f : KindFuser) (kind : Symbol) (ns : List Node) :
    f.candidateRuns kind ns = Segment.longRuns f.floor 0 (f.segments kind ns) := by
  rw [candidateRuns, Scan.runs_eq, Segment.filter_longRuns, segments]

lemma pairwise_candidateRuns (f : KindFuser) (kind : Symbol) (ns : List Node) :
    (f.candidateRuns kind ns).Pairwise fun r r' => r.2 < r'.1 := by
  rw [candidateRuns_eq]
  exact (f.separated_segments kind ns).pairwise_longRuns

/-- The number of nodes that a run needs to be fused: no run is empty, whatever the floor. -/
def leastLength (f : KindFuser) : Nat :=
  max 1 f.floor

/-! ### The runs that are fused -/

/-- What the positions of the runs that are fused promise. -/
structure SelectsRuns (f : KindFuser) (kind : Symbol) (ns : List Node) : Prop where
  /-- They are in order and do not overlap. -/
  increasing : (f.candidateRuns kind ns).Pairwise fun r r' => r.2 < r'.1
  /-- None of them is empty. -/
  nonempty : ∀ r ∈ f.candidateRuns kind ns, r.1 < r.2
  /-- Between any two of them stands a node that is not fusible. -/
  separated : (f.candidateRuns kind ns).Pairwise fun r r' =>
    ∃ k n, r.2 ≤ k ∧ k < r'.1 ∧ ns[k]? = some n ∧ ¬ f.Fusible kind n
  /-- They are the maximal runs of fusible nodes that are long enough. -/
  mem_iff : ∀ i j, (i, j) ∈ f.candidateRuns kind ns ↔
    MaximalRun (f.Fusible kind) ns i j ∧ f.leastLength ≤ j - i

lemma mem_candidateRuns {ns : List Node} {i j : Nat} :
    (i, j) ∈ f.candidateRuns kind ns ↔
      MaximalRun (f.Fusible kind) ns i j ∧ f.leastLength ≤ j - i := by
  have h := f.separated_segments kind ns
  have hnodes : Segment.nodesOf (f.segments kind ns) = ns := Segment.nodesOf_ofNodes _ ns
  rw [candidateRuns_eq, h.mem_longRuns, hnodes, leastLength]
  constructor
  · rintro ⟨i, j, rfl, rfl, hrun, hlong⟩
    have hnonempty := hrun.nonempty
    rw [Nat.zero_add, Nat.zero_add]
    exact ⟨hrun, by omega⟩
  · rintro ⟨hrun, hlong⟩
    exact ⟨i, j, by omega, by omega, hrun, by omega⟩

lemma selectsRuns (f : KindFuser) (kind : Symbol) (ns : List Node) : f.SelectsRuns kind ns where
  increasing := f.pairwise_candidateRuns kind ns
  nonempty r hr := (mem_candidateRuns.mp hr).1.nonempty
  separated := by
    refine (f.pairwise_candidateRuns kind ns).imp_of_mem ?_
    rintro ⟨i, j⟩ ⟨i', j'⟩ hr hr' hlt
    -- The node that stops the first run stands before the second one.
    have hlast : j < ns.length := by
      have hnonempty := (mem_candidateRuns.mp hr').1.nonempty
      have hwithin := (mem_candidateRuns.mp hr').1.within
      simp only at hlt
      omega
    obtain ⟨n, hn, hstops⟩ := (mem_candidateRuns.mp hr).1.exists_after hlast
    exact ⟨j, n, Nat.le_refl j, hlt, hn, hstops⟩
  mem_iff i j := mem_candidateRuns

/-- A run that is as long as the floor is taken, and a shorter one at the end of the list is not. -/
example :
    let node (name : String) : Node := ⟨⟨"aten", name⟩, [], [], none⟩
    let f : KindFuser := { supported := [⟨"aten", "add"⟩, ⟨"aten", "relu"⟩], floor := 2 }
    f.candidateRuns ⟨"fusebox", "FusionGroup"⟩
      [node "sort", node "add", node "relu", node "sort", node "relu"] = [(1, 3)] := by
  decide

/-! ### The nodes that are fused -/

lemma spans_partsOf (floor : Nat) (kind : Symbol) (outputs : List ValueId)
    (segments : List Segment) (s : BlockSupply) (offset : Nat) :
    Part.spans offset (partsOf floor kind outputs segments s) =
      Segment.longRuns floor offset segments := by
  induction segments generalizing s offset with
  | nil => rfl
  | cons segment rest ih =>
    cases segment with
    | kept n => rw [partsOf, Part.spans, Segment.longRuns, ih]
    | run ns =>
      by_cases hlong : floor ≤ ns.length
      · rw [partsOf, if_pos hlong, Segment.longRuns, if_pos hlong, Part.spans, ih]
      · rw [partsOf, if_neg hlong, Segment.longRuns, if_neg hlong, Part.spans_map_kept, ih]

/-- **The regions that fusion takes are the runs that were chosen.** -/
lemma spans_parts (f : KindFuser) (kind : Symbol) (g : Graph) (s : BlockSupply) :
    Part.spans 0 (f.parts kind g s) = f.candidateRuns kind g.nodes := by
  rw [candidateRuns_eq]
  exact spans_partsOf _ _ _ _ _ _

/-- After fusion, the node that stood at a position of the graph is inside the block of a new fusion
node. -/
def InNewBlock (f : KindFuser) (kind : Symbol) (g : Graph) (s : BlockSupply) (k : Nat) : Prop :=
  ∃ before n sub after, f.parts kind g s = before ++ .made n sub.block.nodes :: after ∧
    n.subgraph = some sub ∧ (Part.origins before).length ≤ k ∧
    k < (Part.origins before).length + sub.block.nodes.length

lemma inNewBlock_iff {g : Graph} {s : BlockSupply} {k : Nat} :
    f.InNewBlock kind g s k ↔ ∃ i j, (i, j) ∈ f.candidateRuns kind g.nodes ∧ i ≤ k ∧ k < j := by
  rw [← f.spans_parts kind g s]
  constructor
  · rintro ⟨before, n, sub, after, hparts, -, hle, hlt⟩
    refine ⟨_, _, Part.mem_spans.mpr ⟨before, n, _, after, hparts, rfl, rfl⟩, ?_, ?_⟩ <;> omega
  · rintro ⟨i, j, hmem, hle, hlt⟩
    obtain ⟨before, n, region, after, hparts, rfl, rfl⟩ := Part.mem_spans.mp hmem
    have hmade := f.made_parts kind g s
    rw [hparts] at hmade
    obtain ⟨sub, hsub, rfl⟩ := hmade.exists_subgraph
    exact ⟨before, n, sub, after, hparts, hsub, by omega, by omega⟩

/-- What fusion makes of the single nodes of a graph. -/
structure Absorbs (f : KindFuser) (kind : Symbol) (g : Graph) (s : BlockSupply) : Prop where
  /-- The parts by which positions are counted hold the nodes before fusion. -/
  nodes_before : Part.origins (f.parts kind g s) = g.nodes
  /-- The same parts hold the nodes after fusion. -/
  nodes_after : (f.parts kind g s).map Part.node = (f.fuse kind g s).graph.nodes
  /-- A fusible node lies in a maximal run of fusible nodes. -/
  has_run : ∀ k n, g.nodes[k]? = some n → f.Fusible kind n →
    ∃ i j, MaximalRun (f.Fusible kind) g.nodes i j ∧ i ≤ k ∧ k < j
  /-- It gets into a new block exactly when that run is long enough. -/
  fusible : ∀ k i j, MaximalRun (f.Fusible kind) g.nodes i j → i ≤ k → k < j →
    (f.InNewBlock kind g s k ↔ f.leastLength ≤ j - i)
  /-- A node never does when it is blacklisted, not supported or of the fusion kind, or when it
  carries a subgraph already. -/
  not_fusible : ∀ k n, g.nodes[k]? = some n →
    n.kind.qualified ∈ f.blacklist ∨ n.kind ∉ f.supported ∨ n.kind = kind ∨
      (∃ sub, n.subgraph = some sub) →
    ¬ f.InNewBlock kind g s k

lemma absorbs (f : KindFuser) (kind : Symbol) (g : Graph) (s : BlockSupply) :
    f.Absorbs kind g s where
  nodes_before := f.origins_parts kind g s
  nodes_after := f.map_node_parts kind g s
  has_run k n hk hn := by
    have hnodes : Segment.nodesOf (f.segments kind g.nodes) = g.nodes :=
      Segment.nodesOf_ofNodes _ g.nodes
    have h := (f.separated_segments kind g.nodes).exists_maximalRun (k := k) (n := n)
    rw [hnodes] at h
    exact h hk hn
  fusible k i j hrun hle hlt := by
    rw [inNewBlock_iff]
    constructor
    · rintro ⟨i', j', hmem, hle', hlt'⟩
      obtain ⟨hrun', hlong⟩ := mem_candidateRuns.mp hmem
      obtain ⟨rfl, rfl⟩ := hrun.eq_of_common hrun' hle hlt hle' hlt'
      exact hlong
    · intro hlong
      exact ⟨i, j, mem_candidateRuns.mpr ⟨hrun, hlong⟩, hle, hlt⟩
  not_fusible k n hk hnot hinside := by
    obtain ⟨i, j, hmem, hle, hlt⟩ := inNewBlock_iff.mp hinside
    have hn : f.Fusible kind n := (mem_candidateRuns.mp hmem).1.passes k n hle hlt hk
    rcases hnot with hblack | hunsupported | hfusion | ⟨sub, hsub⟩
    · exact hn.allowed hblack
    · exact hunsupported hn.supported
    · exact hn.other_kind hfusion
    · rw [hn.plain] at hsub
      cases hsub

/-- **Exactly the maximal runs that are long enough are fused.**  A fuser for kinds alone fuses runs
of any length, and one that takes settings fuses runs of at least the size that these ask for. -/
theorem fuse_selects (f : KindFuser) (kind : Symbol) :
    (∀ ns, f.SelectsRuns kind ns) ∧
      (∀ g s, f.Absorbs kind g s) ∧
      (∀ supported, leastLength { supported } = 1) ∧
      ∀ s : Settings, (f.withSettings s).leastLength = max 1 s.minGroupSize.toNat ∧
        (f.withSettings s).blacklist = s.blacklist ∧
        (f.withSettings s).supported = f.supported := by
  refine ⟨f.selectsRuns kind, f.absorbs kind, fun _ => rfl, fun s => ⟨?_, rfl, rfl⟩⟩
  show max 1 (max 1 s.minGroupSize.toNat) = max 1 s.minGroupSize.toNat
  omega

end KindFuser

end Delegation
