import Delegation.Passes
import Delegation.Proofs.Graph.Agreement
/-!
# Fusion keeps the meaning of a graph

A fused graph does not compute all that the original computes: what a region produces and nobody
needs later stays inside its block.  So the environments of the two evaluations differ, and what is
kept is an agreement on the values that are still needed (`liveAt`), bound or not.

* `KindFuser.fusionNode_endAlike`: the node that stands for a region ends like the region, as far
  as the values that are needed later are concerned;
* `KindFuser.fuseSegments_endAlike`: the invariant along the segments of a node list;
* `PassTable.eval_runAll_ofRules`: no list of fusion passes changes what a graph evaluates to.

Nothing is assumed about the graph: values may be given more than once, read before they are given,
or not be given at all, and nodes may already carry subgraphs.
-/

namespace Delegation

open Env

variable {α : Type} {op : Interpretation α}

/-! ### The node that stands for a region -/

namespace Region

lemma mem_inputs {ns : List Node} {v : ValueId} : v ∈ inputs ns ↔ v ∈ reads [] ns :=
  mem_distinct

lemma mem_outputs {ns : List Node} {needed : List ValueId} {v : ValueId} :
    v ∈ outputs ns needed ↔ v ∈ produced ns ∧ v ∈ needed := by
  simp [outputs, mem_distinct]

/-- The nodes of a region end alike in the environment around the region and in that of the block,
where nothing but the inputs of the region is bound. -/
lemma evalAll_block_endAlike {ns : List Node} {env : Env α} {args : List α}
    (hargs : env.read (inputs ns) = some args) :
    EndAlike {v | v ∈ produced ns} (Node.evalAll op ns env)
      (Node.evalAll op ns (Env.empty.bindAll (inputs ns) args)) := by
  have hstart : Set.EqOn env (Env.empty.bindAll (inputs ns) args) {v | v ∈ inputs ns} :=
    fun v hv => (bindAll_of_read hargs Env.empty hv).symm
  refine (Node.evalAll_endAlike [] hstart (by simp) ?_).mono Set.subset_union_right
  intro v hv
  exact mem_inputs.mpr hv

end Region

namespace KindFuser

lemma eval_fusionNode (kind : Symbol) (ns : List Node) (needed : List ValueId) (s : BlockSupply)
    (env : Env α) :
    (fusionNode kind ns needed s).1.eval op env =
      (env.read (Region.inputs ns)).bind fun args =>
        (Node.evalAll op ns (Env.empty.bindAll (Region.inputs ns) args)).bind fun final =>
          (final.read (Region.outputs ns needed)).bind
            (env.assign (Region.outputs ns needed)) := by
  rw [Node.eval_eq]
  simp only [fusionNode, BlockSupply.subgraph, Region.block]
  cases hargs : env.read (Region.inputs ns) with
  | none => rfl
  | some args =>
    simp [Node.results, assign_of_read hargs, Option.bind_assoc]

/-- What the block of a region gives is all that is needed of what the region produces; the other
values that are needed are the same before and after the region. -/
lemma assign_outputs_endAlike {ns : List Node} {env final start inner : Env α}
    (needed : List ValueId) (hfinal : Node.evalAll op ns env = some final)
    (hinner : Node.evalAll op ns start = some inner)
    (hsame : Set.EqOn final inner {v | v ∈ produced ns}) :
    EndAlike {v | v ∈ needed} (some final)
      ((inner.read (Region.outputs ns needed)).bind (env.assign (Region.outputs ns needed))) := by
  have hgiven : ∀ v ∈ Region.outputs ns needed, ∃ a, inner v = some a := fun v hv =>
    Node.exists_of_mem_produced hinner (Region.mem_outputs.mp hv).1
  obtain ⟨as, has⟩ := exists_read_iff.mpr hgiven
  rw [has, Option.bind_some, assign_of_read has]
  refine Option.Rel.some ?_
  intro v hv
  -- What the region does not produce comes from `env` on both sides.
  by_cases hproduced : v ∈ produced ns
  · rw [bindAll_of_read has env (Region.mem_outputs.mpr ⟨hproduced, hv⟩)]
    exact hsame hproduced
  · have houtput : v ∉ Region.outputs ns needed := fun hmem =>
      hproduced (Region.mem_outputs.mp hmem).1
    rw [bindAll_of_not_mem houtput, Node.evalAll_of_not_produced hfinal hproduced]

/-- A region in which something that it takes is not bound fails: some node reads it before any
node could have given it. -/
lemma evalAll_eq_none_of_read {ns : List Node} {env : Env α}
    (hargs : env.read (Region.inputs ns) = none) : Node.evalAll op ns env = none := by
  by_contra hne
  obtain ⟨final, hfinal⟩ := Option.ne_none_iff_exists'.mp hne
  have hbound : ∀ v ∈ Region.inputs ns, ∃ a, env v = some a := fun v hv =>
    Node.exists_of_mem_reads hfinal (Region.mem_inputs.mp hv)
  obtain ⟨args, hread⟩ := exists_read_iff.mpr hbound
  rw [hargs] at hread
  cases hread

/-- **A fusion node does what its region does**, as far as the values in `needed` are concerned. -/
lemma fusionNode_endAlike (kind : Symbol) (ns : List Node) (needed : List ValueId)
    (s : BlockSupply) (env : Env α) :
    EndAlike {v | v ∈ needed} (Node.evalAll op ns env)
      ((fusionNode kind ns needed s).1.eval op env) := by
  rw [eval_fusionNode]
  cases hargs : env.read (Region.inputs ns) with
  | none =>
    rw [evalAll_eq_none_of_read hargs]
    exact Option.Rel.none
  | some args =>
    rw [Option.bind_some]
    refine (Region.evalAll_block_endAlike hargs).bind_right
      fun final inner hfinal hinner hsame => ?_
    exact assign_outputs_endAlike needed hfinal hinner hsame

/-! ### The segments of a node list -/

/-- The values that are needed from some point of a graph on: its outputs, and what the nodes after
that point read. -/
def liveAt (outputs : List ValueId) (ns : List Node) : Set ValueId :=
  {v | v ∈ outputs ++ ns.flatMap Node.inputs}

lemma liveAt_append_right (outputs : List ValueId) (ns ms : List Node) :
    liveAt outputs ms ⊆ liveAt outputs (ns ++ ms) := by
  intro v hv
  simp only [liveAt, Set.mem_ofPred_eq, List.mem_append, List.flatMap_append] at hv ⊢
  tauto

lemma mem_liveAt_of_mem_reads {outputs : List ValueId} {ns ms : List Node} {v : ValueId}
    (h : v ∈ Region.reads [] ns) : v ∈ liveAt outputs (ns ++ ms) := by
  have hv := Region.mem_inputs_of_mem_reads h
  simp only [liveAt, Set.mem_ofPred_eq, List.mem_append, List.flatMap_append]
  exact Or.inr (Or.inl hv)

/-- Nodes at the front of a list end alike on all that was needed before them. -/
lemma evalAll_endAlike_liveAt {outputs : List ValueId} {ns ms : List Node} {env env' : Env α}
    (h : Set.EqOn env env' (liveAt outputs (ns ++ ms))) :
    EndAlike (liveAt outputs ms) (Node.evalAll op ns env) (Node.evalAll op ns env') := by
  refine (Node.evalAll_endAlike [] h (by simp) ?_).mono ?_
  · intro v hv
    exact mem_liveAt_of_mem_reads hv
  · exact (liveAt_append_right outputs ns ms).trans Set.subset_union_left

/-- **The invariant of fusion.**  From environments that agree on what is still needed, the nodes of
some segments and the nodes that replace them end alike on the graph outputs. -/
lemma fuseSegments_endAlike (floor : Nat) (kind : Symbol) (outputs : List ValueId)
    (segments : List Segment) (s : BlockSupply) {env env' : Env α}
    (h : Set.EqOn env env' (liveAt outputs (Segment.nodesOf segments))) :
    EndAlike {v | v ∈ outputs} (Node.evalAll op (Segment.nodesOf segments) env)
      (Node.evalAll op (fuseSegments floor kind outputs segments s).nodes env') := by
  induction segments generalizing s env env' with
  | nil =>
    simp only [Segment.nodesOf, List.flatMap_nil, fuseSegments, Node.evalAll_nil]
    exact Option.Rel.some (h.mono fun v hv => List.mem_append_left _ hv)
  | cons segment rest ih =>
    have hnodes : Segment.nodesOf (segment :: rest) = segment.nodes ++ Segment.nodesOf rest :=
      List.flatMap_cons
    rw [hnodes] at h ⊢
    rw [Node.evalAll_append]
    have hsegment : EndAlike (liveAt outputs (Segment.nodesOf rest))
        (Node.evalAll op segment.nodes env) (Node.evalAll op segment.nodes env') :=
      evalAll_endAlike_liveAt h
    cases segment with
    | kept n =>
      have hreplaced : (fuseSegments floor kind outputs (.kept n :: rest) s).nodes =
          [n] ++ (fuseSegments floor kind outputs rest s).nodes := rfl
      rw [hreplaced, Node.evalAll_append]
      exact hsegment.bind fun mid mid' hmid => ih s hmid
    | run ns =>
      by_cases hlong : floor ≤ ns.length
      · have hreplaced : (fuseSegments floor kind outputs (.run ns :: rest) s).nodes =
            (fusionNode kind ns (outputs ++ (Segment.nodesOf rest).flatMap Node.inputs) s).1 ::
              (fuseSegments floor kind outputs rest
                (fusionNode kind ns (outputs ++ (Segment.nodesOf rest).flatMap Node.inputs) s).2
              ).nodes := by
          rw [fuseSegments, if_pos hlong]
        rw [hreplaced, Node.evalAll_cons]
        -- First the region moves to the environment of the fused graph, then the node replaces it.
        have hfused := hsegment.trans (fusionNode_endAlike kind ns _ s env')
        exact hfused.bind fun mid mid' hmid => ih _ hmid
      · have hreplaced : (fuseSegments floor kind outputs (.run ns :: rest) s).nodes =
            ns ++ (fuseSegments floor kind outputs rest s).nodes := by
          rw [fuseSegments, if_neg hlong]
        rw [hreplaced, Node.evalAll_append]
        exact hsegment.bind fun mid mid' hmid => ih s hmid

/-! ### Graphs and passes -/

/-- A fused graph evaluates to what the original evaluates to. -/
lemma eval_fuse (f : KindFuser) (kind : Symbol) (g : Graph) (s : BlockSupply) (env : Env α) :
    Graph.eval op (f.fuse kind g s).graph env = Graph.eval op g env := by
  have hnodes : Segment.nodesOf (f.segments kind g.nodes) = g.nodes :=
    Segment.nodesOf_ofNodes _ _
  have h : EndAlike {v | v ∈ g.outputs} (Node.evalAll op (Segment.nodesOf (f.segments kind g.nodes))
      env) (Node.evalAll op (f.fuse kind g s).graph.nodes env) :=
    fuseSegments_endAlike f.floor kind g.outputs (f.segments kind g.nodes) s (Set.eqOn_refl env _)
  rw [hnodes] at h
  exact h.bind_read_eq.symm

end KindFuser

/-- A fusion pass as a host registers it. -/
structure FusionRule (σ ρ : Type) where
  /-- The fuser. -/
  fuser : KindFuser
  /-- The kind of the nodes that it creates. -/
  kind : Symbol
  /-- The condition under which it runs. -/
  gate : Gate σ ρ

namespace PassTable

variable {σ ρ : Type}

/-- The pass table in which fusion passes were registered one after the other. -/
def ofRules (rules : List (FusionRule σ ρ)) : PassTable σ ρ :=
  rules.foldl (fun t r => t.registerFusion r.fuser.fuse r.kind r.gate) .empty

lemma passes_foldl_registerFusion (rules : List (FusionRule σ ρ)) (t : PassTable σ ρ) :
    (rules.foldl (fun t r => t.registerFusion r.fuser.fuse r.kind r.gate) t).passes =
      t.passes ++ rules.map fun r => fusionPass r.fuser.fuse r.kind r.gate := by
  induction rules generalizing t with
  | nil => simp
  | cons r rules ih =>
    rw [List.foldl_cons, ih]
    simp [registerFusion, register]

/-- The passes stand in the table in the order in which they were registered. -/
lemma passes_ofRules (rules : List (FusionRule σ ρ)) :
    (ofRules rules).passes = rules.map fun r => fusionPass r.fuser.fuse r.kind r.gate := by
  rw [ofRules, passes_foldl_registerFusion]
  rfl

lemma eval_fusionPass (r : FusionRule σ ρ) (g : Graph) (w : World σ ρ) (env : Env α) :
    Graph.eval op (fusionPass r.fuser.fuse r.kind r.gate g w).1 env = Graph.eval op g env := by
  rw [fusionPass]
  split
  · exact KindFuser.eval_fuse r.fuser r.kind g w.blocks env
  · rfl

/-- **Fusion passes keep the meaning of a graph.**  Whatever fusion passes are registered, whatever
their gates answer, and whatever the operators mean, the graph that comes out of the passes
evaluates exactly when the graph that went in does, and to the same values. -/
theorem eval_runAll_ofRules (op : Interpretation α) (rules : List (FusionRule σ ρ)) (g : Graph)
    (w : World σ ρ) (env : Env α) :
    Graph.eval op ((ofRules rules).runAll g w).1 env = Graph.eval op g env := by
  rw [runAll, passes_ofRules]
  induction rules generalizing g w with
  | nil => rfl
  | cons r rules ih =>
    rw [List.map_cons, List.foldl_cons, ih]
    exact eval_fusionPass r g w env

end PassTable

end Delegation
