import Delegation.Backend.Bench
import Delegation.Proofs.Fusion.Meaning
import Delegation.Proofs.Fusion.Regions
import Delegation.Proofs.Value.Shape
/-!
# The calling convention of fusion nodes

The interpreter takes one tensor for each input of a block from the stack, evaluates the nodes, and
pushes one tensor for each output.  On the blocks that fusion makes none of its checks can fail:
everything that a node reads is an argument or was computed before, all tensors have one shape, and
no output is given twice.  What it pushes is what the absorbed nodes compute.

* `Interpreter.exists_step`: on a node that it can execute, the runner takes the same step as the
  evaluation of the node, and keeps the common shape;
* `Interpreter.exists_stepAll`: so it does on a list of nodes, when everything that they read from
  outside is bound;
* `Interpreter.run_block`: on a region, a run takes the arguments from the stack and leaves the
  results;
* `KindFuser.created_followConvention`: every new fusion node is accepted and executed so.

The arithmetic on the elements plays no part in this: nothing is used of `Single.relu`, `Single.add`
and `Single.mul` but that both sides apply them.
-/

namespace Delegation

open Env

/-! ### Tensors of one shape -/

namespace Env

/-- Everything that is bound is a tensor of the shape. -/
def Shaped (shape : List UInt64) (env : Env Tensor) : Prop :=
  ∀ v t, env v = some t → t.HasShape shape

variable {shape : List UInt64} {env : Env Tensor} {vs : List ValueId}

lemma shaped_empty : Shaped shape empty := by
  intro v t h
  cases h

lemma Shaped.bind (h : Shaped shape env) {t : Tensor} (ht : t.HasShape shape) (v : ValueId) :
    Shaped shape (env.bind v t) := by
  intro w u hu
  by_cases hw : w = v
  · rw [hw, bind_self] at hu
    cases hu
    exact ht
  · rw [bind_of_ne env t hw] at hu
    exact h w u hu

lemma Shaped.bindAll (h : Shaped shape env) {args : List Tensor}
    (hargs : ∀ t ∈ args, t.HasShape shape) (vs : List ValueId) :
    Shaped shape (env.bindAll vs args) := by
  induction vs generalizing env args with
  | nil => exact h
  | cons v vs ih =>
    cases args with
    | nil => exact h
    | cons t args =>
      obtain ⟨ht, hrest⟩ := List.forall_mem_cons.mp hargs
      exact ih (h.bind ht v) hrest

lemma Shaped.read (h : Shaped shape env) {ts : List Tensor} (hread : env.read vs = some ts) :
    ∀ t ∈ ts, t.HasShape shape := by
  intro t ht
  obtain ⟨v, hv⟩ := exists_of_mem_read hread ht
  exact h v t hv

end Env

namespace Interpreter

/-! ### What the operators mean -/

/-- The operators that the interpreter knows, as functions of the tensors that a node reads.  What a
node reads beyond its operands plays no part. -/
def meaning : Interpretation Tensor
  | ⟨"aten", "relu"⟩, x :: _ => some [⟨x.shape, x.data.map Single.relu⟩]
  | ⟨"aten", "add"⟩, a :: b :: _ => some [⟨a.shape, List.zipWith Single.add a.data b.data⟩]
  | ⟨"aten", "mul"⟩, a :: b :: _ => some [⟨a.shape, List.zipWith Single.mul a.data b.data⟩]
  | _, _ => none

/-- The number of operands of an operator that the interpreter knows. -/
def operands (kind : Symbol) : Nat :=
  if kind = ⟨"aten", "relu"⟩ then 1 else 2

/-- The node reads at least its operands, and has exactly one output. -/
structure Applicable (n : Node) : Prop where
  /-- There is an input for each operand. -/
  operands_le : operands n.kind ≤ n.inputs.length
  /-- There is one output. -/
  one_output : n.outputs.length = 1

/-- The interpreter can execute the node. -/
structure Executable (n : Node) : Prop extends Applicable n where
  /-- It knows the operator. -/
  known : n.kind ∈ supportedKinds
  /-- The node carries no subgraph. -/
  plain : n.subgraph = none

variable {shape : List UInt64} {env : Env Tensor} {n : Node} {ns : List Node}
  {args : List Tensor}

lemma kind_of_mem_supportedKinds {kind : Symbol} (h : kind ∈ supportedKinds) :
    kind = ⟨"aten", "add"⟩ ∨ kind = ⟨"aten", "mul"⟩ ∨ kind = ⟨"aten", "relu"⟩ := by
  simpa only [supportedKinds, List.mem_cons, List.not_mem_nil, or_false] using h

lemma operand_of_read (hread : env.read n.inputs = some args) {i : Nat} {t : Tensor}
    (ht : args[i]? = some t) : operand env n i = .returned t := by
  rw [operand, getElem?_of_read hread, ht]
  rfl

/-- On tensors of one shape, elements pair up without remainder. -/
lemma pairwise_of_hasShape {a b : Tensor} (ha : a.HasShape shape) (hb : b.HasShape shape)
    (f : Single → Single → Single) :
    pairwise f a b = .returned ⟨a.shape, List.zipWith f a.data b.data⟩ ∧
      Tensor.HasShape shape ⟨a.shape, List.zipWith f a.data b.data⟩ := by
  have hlength : (List.zipWith f a.data b.data).length = a.data.length := by
    rw [List.length_zipWith, ← ha.length_eq, ← hb.length_eq, Nat.min_self]
  obtain ⟨hmake, hshape⟩ := ha.make hlength
  refine ⟨?_, hshape⟩
  rw [pairwise, if_pos (ha.shape_eq.trans hb.shape_eq.symm), hmake]
  rfl

/-- **The kernels compute what the operators mean**, and keep the shape. -/
lemma exists_compute (hknown : n.kind ∈ supportedKinds)
    (hoperands : operands n.kind ≤ n.inputs.length) (hread : env.read n.inputs = some args)
    (hargs : ∀ t ∈ args, t.HasShape shape) :
    ∃ t, compute env n = .returned t ∧ meaning n.kind args = some [t] ∧ t.HasShape shape := by
  rw [← length_of_read hread] at hoperands
  -- `add` and `mul` differ in the function on elements alone.
  have htwo : operands n.kind = 2 → ∃ a b rest, args = a :: b :: rest ∧ a.HasShape shape ∧
      b.HasShape shape ∧ operand env n 0 = .returned a ∧ operand env n 1 = .returned b := by
    intro htwo
    rw [htwo] at hoperands
    match args, hoperands, hread, hargs with
    | a :: b :: rest, _, hread, hargs =>
      exact ⟨a, b, rest, rfl, hargs a (by simp), hargs b (by simp), operand_of_read hread rfl,
        operand_of_read hread rfl⟩
  rcases kind_of_mem_supportedKinds hknown with hkind | hkind | hkind
  · obtain ⟨a, b, rest, rfl, ha, hb, hfirst, hsecond⟩ := htwo (by rw [hkind]; rfl)
    obtain ⟨hpairwise, hshape⟩ := pairwise_of_hasShape ha hb Single.add
    refine ⟨_, ?_, by rw [hkind]; rfl, hshape⟩
    rw [compute, hkind, if_neg (by decide), if_pos rfl, hfirst, hsecond]
    exact hpairwise
  · obtain ⟨a, b, rest, rfl, ha, hb, hfirst, hsecond⟩ := htwo (by rw [hkind]; rfl)
    obtain ⟨hpairwise, hshape⟩ := pairwise_of_hasShape ha hb Single.mul
    refine ⟨_, ?_, by rw [hkind]; rfl, hshape⟩
    rw [compute, hkind, if_neg (by decide), if_neg (by decide), if_pos rfl, hfirst, hsecond]
    exact hpairwise
  · rw [hkind] at hoperands
    obtain ⟨x, rest, rfl⟩ := List.exists_cons_of_length_pos hoperands
    obtain ⟨hmap, hshape⟩ := (hargs x List.mem_cons_self).mapData Single.relu
    refine ⟨_, ?_, by rw [hkind]; rfl, hshape⟩
    rw [compute, hkind, if_pos rfl, operand_of_read hread (i := 0) rfl]
    show (x.mapData Single.relu).mapError _ = _
    rw [hmap]
    rfl

/-! ### Steps -/

/-- **The runner takes the step of the evaluation.** -/
lemma exists_step (hn : Executable n) (hshaped : Shaped shape env)
    (hbound : ∀ v ∈ n.inputs, ∃ t, env v = some t) :
    ∃ final, step env n = .returned final ∧ n.eval meaning env = some final ∧
      Shaped shape final := by
  obtain ⟨args, hread⟩ := exists_read_iff.mpr hbound
  obtain ⟨t, hcompute, hmeaning, ht⟩ :=
    exists_compute hn.known hn.operands_le hread (hshaped.read hread)
  obtain ⟨v, hv⟩ := List.length_eq_one_iff.mp hn.one_output
  refine ⟨env.bind v t, ?_, ?_, hshaped.bind ht v⟩
  · rw [step, hcompute, hv]
    rfl
  · have hresults : n.results meaning args = some [t] := by
      rw [Node.results, hn.plain]
      exact hmeaning
    rw [Node.eval_eq, hread, Option.bind_some, hresults, Option.bind_some, hv]
    rfl

/-- **The runner evaluates a list of nodes** when what they read from outside is bound.  Along the
list, `known` are the values that are bound by then. -/
lemma exists_stepAll (hns : ∀ n ∈ ns, Executable n) (hshaped : Shaped shape env)
    (known : List ValueId) (hknown : ∀ v ∈ known, ∃ t, env v = some t)
    (hreads : ∀ v ∈ Region.reads known ns, ∃ t, env v = some t) :
    ∃ final, stepAll env ns = .returned final ∧ Node.evalAll meaning ns env = some final ∧
      Shaped shape final := by
  induction ns generalizing known env with
  | nil => exact ⟨env, rfl, Node.evalAll_nil env, hshaped⟩
  | cons n ns ih =>
    obtain ⟨hn, hrest⟩ := List.forall_mem_cons.mp hns
    have hinputs : ∀ v ∈ n.inputs, ∃ t, env v = some t := by
      intro v hv
      by_cases hmem : v ∈ known
      · exact hknown v hmem
      · exact hreads v (Region.mem_reads_cons.mpr (Or.inl ⟨hv, hmem⟩))
    obtain ⟨mid, hstep, heval, hmid⟩ := exists_step hn hshaped hinputs
    have hknown' : ∀ v ∈ known ++ n.outputs, ∃ t, mid v = some t := by
      intro v hv
      rcases List.mem_append.mp hv with hv | hv
      · exact Node.eval_keeps_bound heval (hknown v hv)
      · exact Node.exists_of_mem_outputs heval hv
    have hreads' : ∀ v ∈ Region.reads (known ++ n.outputs) ns, ∃ t, mid v = some t := fun v hv =>
      Node.eval_keeps_bound heval (hreads v (Region.mem_reads_cons.mpr (Or.inr hv)))
    obtain ⟨final, hstepAll, hevalAll, hfinal⟩ := ih hrest hmid (known ++ n.outputs) hknown' hreads'
    refine ⟨final, ?_, Node.evalAll_cons_eq_some.mpr ⟨mid, heval, hevalAll⟩, hfinal⟩
    rw [stepAll, hstep]
    exact hstepAll

/-! ### Runs -/

lemma bindArguments_tensors (env : Bindings) (vs : List ValueId) (args : List Tensor) :
    bindArguments env vs (args.map Value.tensor) = .ok (env.bindAll vs args) := by
  induction vs generalizing env args with
  | nil => rfl
  | cons v vs ih =>
    cases args with
    | nil => rfl
    | cons t args => exact ih (env.bind v t) args

/-- Outputs that are all bound and all different are pushed in order. -/
lemma pushOutputs_of_read {env : Bindings} {vs : List ValueId} {ts : List Tensor}
    (hnodup : vs.Nodup) (hread : env.read vs = some ts) (s : Stack) :
    pushOutputs env vs s = (.returned (), s.pushAll (ts.map Value.tensor)) := by
  induction vs generalizing env ts s with
  | nil =>
    cases hread
    rfl
  | cons v vs ih =>
    obtain ⟨hv, hrest⟩ := List.nodup_cons.mp hnodup
    obtain ⟨t, us, ht, hus, rfl⟩ := read_cons_eq_some.mp hread
    -- Taking this output out of the bindings does not touch the later ones.
    have hlater : Env.read (fun w => if w = v then none else env w) vs = some us := by
      rw [← hus]
      refine read_congr fun w hw => ?_
      exact if_neg (ne_of_mem_of_not_mem hw hv)
    rw [pushOutputs, ht]
    exact ih hrest hlater (s.push (.tensor t))

/-- The stack holds results in place of arguments: one tensor of the shape for each output, namely
what the nodes give when they are evaluated one by one from the arguments. -/
structure Answers (inputs outputs : List ValueId) (ns : List Node) (shape : List UInt64)
    (below : List Value) (args : List Tensor) (s : Stack) (results : List Tensor) : Prop where
  /-- The results stand on what was below the arguments. -/
  stack : s.toList = below ++ results.map Value.tensor
  /-- There is one for each output. -/
  length_eq : results.length = outputs.length
  /-- They have the shape. -/
  shaped : ∀ t ∈ results, t.HasShape shape
  /-- They are the values of the outputs after the nodes, from the arguments alone. -/
  values : Graph.eval meaning ⟨inputs, ns, outputs⟩ (Env.empty.bindAll inputs args) = some results
  /-- They are so in every environment in which the inputs have the arguments as values. -/
  values_anywhere : ∀ env : Env Tensor, env.read inputs = some args →
    Graph.eval meaning ⟨inputs, ns, outputs⟩ env = some results

/-- **A run on a region** takes its arguments from the stack and leaves its results there. -/
lemma run_block (hns : ∀ n ∈ ns, Executable n) (needed : List ValueId) {s : Stack}
    {below : List Value} (hstack : s.toList = below ++ args.map Value.tensor)
    (hlen : args.length = (Region.inputs ns).length) (hargs : ∀ t ∈ args, t.HasShape shape) :
    ∃ s' results, run (Region.block ns needed) s = (.returned (), s') ∧
      Answers (Region.inputs ns) (Region.outputs ns needed) ns shape below args s' results := by
  have hbound : ∀ v ∈ Region.reads [] ns,
      ∃ t, Env.empty.bindAll (Region.inputs ns) args v = some t := fun v hv =>
    exists_bindAll_of_mem hlen (Region.mem_inputs.mpr hv) Env.empty
  obtain ⟨final, hstepAll, hevalAll, hfinal⟩ :=
    exists_stepAll hns (shaped_empty.bindAll hargs (Region.inputs ns)) [] (by simp) hbound
  have hgiven : ∀ v ∈ Region.outputs ns needed, ∃ t, final v = some t := fun v hv =>
    Node.exists_of_mem_produced hevalAll (Region.mem_outputs.mp hv).1
  obtain ⟨results, hresults⟩ := exists_read_iff.mpr hgiven
  have hvalues : ∀ env : Env Tensor, env.read (Region.inputs ns) = some args →
      Graph.eval meaning ⟨Region.inputs ns, ns, Region.outputs ns needed⟩ env = some results := by
    intro env hread
    have halike : EndAlike {v | v ∈ Region.outputs ns needed} (Node.evalAll meaning ns env)
        (Node.evalAll meaning ns (Env.empty.bindAll (Region.inputs ns) args)) :=
      (Region.evalAll_block_endAlike hread).mono fun v hv => (Region.mem_outputs.mp hv).1
    rw [Graph.eval, halike.bind_read_eq, hevalAll]
    exact hresults
  have hpop : s.popMany (Region.inputs ns).length =
      .ok (args.map Value.tensor, Stack.ofList below) := by
    rw [← hlen, ← List.length_map (f := Value.tensor)]
    exact Stack.popMany_of_toList hstack
  refine ⟨(Stack.ofList below).pushAll (results.map Value.tensor), results, ?_, ?_⟩
  · rw [run, Region.block, hpop]
    simp only [bindArguments_tensors, hstepAll]
    exact pushOutputs_of_read (nodup_distinct _) hresults _
  · refine ⟨?_, length_of_read hresults, hfinal.read hresults, ?_, hvalues⟩
    · rw [Stack.toList_pushAll, Stack.toList_ofList]
    · exact hvalues _ (read_bindAll (nodup_distinct _) hlen Env.empty)

/-! ### Fusion nodes -/

/-- A block of known operators is accepted, and the runner keeps it. -/
lemma exists_runner {η : Type} {request : BuildRequest η}
    (h : ∀ n ∈ request.subgraph.block.nodes, n.kind ∈ supportedKinds) (i : Nat) (bench : Bench) :
    ∃ runner bench', Bench.interpreterFactory i request bench = (.returned runner, bench') ∧
      runner.program = .interpreted request.subgraph.block := by
  have hnone : unsupported? request.subgraph.block = none := by
    rw [unsupported?, List.find?_eq_none]
    intro n hn
    simp only [List.contains_iff_mem.mpr (h n hn), Bool.not_true, Bool.false_eq_true,
      not_false_eq_true]
  have haccept : accept request.subgraph.block = .ok () := by rw [accept, hnone]
  rw [Bench.interpreterFactory, haccept]
  exact ⟨_, _, rfl, rfl⟩

/-- Both entry points run the block. -/
lemma exists_execute {runner : Bench.Runner} {b : Block Node} (h : runner.program = .interpreted b)
    (entry : EntryPoint) (s : Stack) (w : World Bench Bench.Runner) :
    ∃ w', Bench.engine.execute runner entry s w = ((run b s).1, (run b s).2, w') := by
  simp only [Bench.engine, h]
  exact ⟨_, rfl⟩

/-- The fusion node carries the nodes of its run, the interpreter accepts them, and each entry point
of the runner that it builds takes tensors of one shape, one for each input of the node, from the
stack and answers with one for each output. -/
def FollowsConvention (g : Graph) (n : Node) (run : Nat × Nat) : Prop :=
  ∃ sub, n.subgraph = some sub ∧ sub.block.nodes = g.nodes.extract run.1 run.2 ∧
    ∀ (η : Type) i (request : BuildRequest η) bench, request.subgraph = sub →
      ∃ runner bench', Bench.interpreterFactory i request bench = (.returned runner, bench') ∧
        ∀ entry stack world shape below args,
          stack.toList = below ++ args.map Value.tensor → args.length = n.inputs.length →
          (∀ t ∈ args, t.HasShape shape) →
          ∃ stack' world' results,
            Bench.engine.execute runner entry stack world = (.returned (), stack', world') ∧
              Answers n.inputs n.outputs sub.block.nodes shape below args stack' results

lemma followsConvention_of_standsFor {kind : Symbol} {g : Graph} {run : Nat × Nat}
    (h : StandsFor kind g n run) (hnodes : ∀ m ∈ g.nodes.extract run.1 run.2, Executable m) :
    FollowsConvention g n run := by
  obtain ⟨⟨id, block⟩, rfl, rfl⟩ := h.exists_subgraph
  refine ⟨_, rfl, rfl, ?_⟩
  rintro η i request bench hrequest
  have hknown : ∀ m ∈ request.subgraph.block.nodes, m.kind ∈ supportedKinds := by
    rw [hrequest]
    exact fun m hm => (hnodes m hm).known
  obtain ⟨runner, bench', hbuild, hprogram⟩ := exists_runner hknown i bench
  rw [hrequest] at hprogram
  refine ⟨runner, bench', hbuild, ?_⟩
  intro entry stack world shape below args hstack hlen hargs
  obtain ⟨stack', results, hrun, hanswers⟩ := run_block hnodes _ hstack hlen hargs
  obtain ⟨world', hexecute⟩ := exists_execute hprogram entry stack world
  rw [hrun] at hexecute
  exact ⟨stack', world', results, hexecute, hanswers⟩

end Interpreter

namespace KindFuser

open Interpreter

/-- **The interpreter executes every fusion node**, as long as the fuser takes only operators that
the interpreter knows, and their nodes have enough inputs and one output each.  The new fusion nodes
stand in the graph that fusion gives, as many as it counts. -/
theorem created_followConvention (f : KindFuser) (kind : Symbol) (g : Graph) (s : BlockSupply)
    (hsupported : ∀ k ∈ f.supported, k ∈ supportedKinds)
    (hnodes : ∀ n ∈ g.nodes, n.kind ∈ supportedKinds → Applicable n) :
    (f.created kind g s).Sublist (f.fuse kind g s).graph.nodes ∧
      (f.created kind g s).length = (f.fuse kind g s).count ∧
      List.Forall₂ (FollowsConvention g) (f.created kind g s) (f.candidateRuns kind g.nodes) := by
  refine ⟨f.sublist_created kind g s, f.length_created kind g s, ?_⟩
  have hstands := f.forall₂_created kind g s
  refine List.forall₂_iff_zip.mpr ⟨hstands.length_eq, fun {n run} hmem => ?_⟩
  refine followsConvention_of_standsFor (List.forall₂_zip hstands hmem) fun m hm => ?_
  obtain ⟨hgraph, hfusible⟩ := fusible_of_mem_run (List.of_mem_zip hmem).2 hm
  have hknown := hsupported m.kind hfusible.supported
  exact ⟨hnodes m hgraph hknown, hknown, hfusible.plain⟩

/-- A run in which value 0 is used, produced and used again and value 1 is produced twice.  Its
second node has an input that is no operand. -/
theorem created_followConvention_redefined :
    let add : Symbol := ⟨"aten", "add"⟩
    let mul : Symbol := ⟨"aten", "mul"⟩
    let relu : Symbol := ⟨"aten", "relu"⟩
    let sort : Symbol := ⟨"aten", "sort"⟩
    let kind : Symbol := ⟨"box", "fused"⟩
    let g : Graph :=
      ⟨[⟨0⟩, ⟨2⟩, ⟨3⟩],
        [⟨mul, [⟨0⟩, ⟨0⟩], [⟨1⟩], none⟩, ⟨add, [⟨1⟩, ⟨2⟩, ⟨3⟩], [⟨0⟩], none⟩,
          ⟨relu, [⟨0⟩], [⟨1⟩], none⟩, ⟨sort, [⟨0⟩], [], none⟩],
        [⟨1⟩]⟩
    let f : KindFuser := { supported := [add, mul, relu] }
    (∀ k ∈ f.supported, k ∈ supportedKinds) ∧
      (∀ n ∈ g.nodes, n.kind ∈ supportedKinds → Applicable n) ∧
      (f.created kind g ⟨0⟩).map (fun n => (n.inputs, n.outputs)) =
        [([⟨0⟩, ⟨2⟩, ⟨3⟩], [⟨1⟩, ⟨0⟩])] ∧
      (f.created kind g ⟨0⟩).Sublist (f.fuse kind g ⟨0⟩).graph.nodes ∧
      (f.created kind g ⟨0⟩).length = (f.fuse kind g ⟨0⟩).count ∧
      List.Forall₂ (FollowsConvention g) (f.created kind g ⟨0⟩) (f.candidateRuns kind g.nodes) := by
  intro add mul relu sort kind g f
  have hsupported : ∀ k ∈ f.supported, k ∈ supportedKinds := by decide
  have hnodes : ∀ n ∈ g.nodes, n.kind ∈ supportedKinds → Applicable n := by
    simp only [g, List.forall_mem_cons]
    refine ⟨fun _ => ⟨by decide, rfl⟩, fun _ => ⟨by decide, rfl⟩, fun _ => ⟨by decide, rfl⟩, ?_, ?_⟩
    · exact fun hsort => absurd hsort (by decide)
    · exact List.forall_mem_nil _
  exact ⟨hsupported, hnodes, by decide, created_followConvention f kind g ⟨0⟩ hsupported hnodes⟩

end KindFuser

end Delegation
