import Delegation.Fusion.Region
import Delegation.Graph.Evaluation
import Mathlib.Data.Set.Function
import Mathlib.Tactic.Common
/-!
# What an evaluation depends on

Two environments may differ on values that nobody reads any more.  This file states what the
evaluation of nodes keeps of an agreement between environments:

* `Node.evalAll_endAlike`: if two environments agree on everything that nodes read from outside,
  the evaluations from both fail or succeed together, and their results agree on the same values
  and on everything that the nodes produce;
* `Node.evalAll_of_not_produced`: values that no node produces keep what they had;
* `Node.exists_of_mem_produced` and `Node.exists_of_mem_reads`: a successful evaluation has bound
  everything that its nodes produce, and had found everything that they read from outside.

The statements about a single node all come from one equation, `Node.eval_eq`: a node reads, yields
results that depend on nothing but what was read, and assigns.
-/

namespace Delegation

variable {α : Type}

/-! ### Environments -/

namespace Env

/-- Two evaluations end alike on a set of values: both fail, or both give environments that agree
on that set. -/
def EndAlike (K : Set ValueId) : Option (Env α) → Option (Env α) → Prop :=
  Option.Rel fun env env' => Set.EqOn env env' K

variable {env env' : Env α} {K L : Set ValueId}

lemma EndAlike.trans {r₁ r₂ r₃ : Option (Env α)} (h : EndAlike K r₁ r₂) (h' : EndAlike K r₂ r₃) :
    EndAlike K r₁ r₃ := by
  cases h with
  | none => exact h'
  | some h =>
    cases h' with
    | some h' => exact Option.Rel.some (h.trans h')

lemma EndAlike.mono {r r' : Option (Env α)} (h : EndAlike L r r') (hKL : K ⊆ L) :
    EndAlike K r r' := by
  cases h with
  | none => exact Option.Rel.none
  | some h => exact Option.Rel.some (h.mono hKL)

/-- What goes on alike from environments that agree ends alike. -/
lemma EndAlike.bind {r r' : Option (Env α)} {f f' : Env α → Option (Env α)} (h : EndAlike K r r')
    (hf : ∀ env env', Set.EqOn env env' K → EndAlike L (f env) (f' env')) :
    EndAlike L (r.bind f) (r'.bind f') := by
  cases h with
  | none => exact Option.Rel.none
  | some h => exact hf _ _ h

/-- Only the second evaluation goes on, from an environment that agrees with the end of the first. -/
lemma EndAlike.bind_right {r r' : Option (Env α)} {f' : Env α → Option (Env α)}
    (h : EndAlike K r r')
    (hf : ∀ env env', r = some env → r' = some env' → Set.EqOn env env' K →
      EndAlike L (some env) (f' env')) :
    EndAlike L r (r'.bind f') := by
  cases h with
  | none => exact Option.Rel.none
  | some h => exact hf _ _ rfl rfl h

@[simp] lemma bind_self (env : Env α) (v : ValueId) (a : α) : env.bind v a v = some a := by
  simp [Env.bind]

lemma bind_of_ne (env : Env α) {v w : ValueId} (a : α) (h : w ≠ v) : env.bind v a w = env w := by
  simp [Env.bind, h]

lemma bindAll_of_not_mem {vs : List ValueId} {v : ValueId} (h : v ∉ vs) (env : Env α)
    (as : List α) : env.bindAll vs as v = env v := by
  induction vs generalizing env as with
  | nil => simp [bindAll]
  | cons w vs ih =>
    rw [List.mem_cons, not_or] at h
    cases as with
    | nil => simp [bindAll]
    | cons a as => rw [bindAll, ih h.2, bind_of_ne env a h.1]

/-- A binding takes the place of what was there, so environments that agree on a set agree also on
what is bound in both. -/
lemma eqOn_bindAll {vs : List ValueId} {as : List α} (hlen : as.length = vs.length)
    (h : Set.EqOn env env' K) :
    Set.EqOn (env.bindAll vs as) (env'.bindAll vs as) (K ∪ {v | v ∈ vs}) := by
  induction vs generalizing env env' as K with
  | nil => simpa [bindAll] using h
  | cons w vs ih =>
    cases as with
    | nil => simp at hlen
    | cons a as =>
      have hbind : Set.EqOn (env.bind w a) (env'.bind w a) (K ∪ {w}) := by
        intro v hv
        by_cases hvw : v = w
        · rw [hvw, bind_self, bind_self]
        · rw [bind_of_ne env a hvw, bind_of_ne env' a hvw]
          exact h (hv.resolve_right hvw)
      refine (ih (by simpa using hlen) hbind).mono ?_
      rintro v (hv | hv)
      · exact Or.inl (Or.inl hv)
      · rcases List.mem_cons.mp hv with rfl | hv
        · exact Or.inl (Or.inr rfl)
        · exact Or.inr hv

/-- A value that is bound stays bound, perhaps to something else. -/
lemma exists_bindAll_of_exists {v : ValueId} (h : ∃ a, env v = some a) (vs : List ValueId)
    (as : List α) : ∃ a, env.bindAll vs as v = some a := by
  induction vs generalizing env as with
  | nil => simpa [bindAll] using h
  | cons w vs ih =>
    cases as with
    | nil => simpa [bindAll] using h
    | cons a as =>
      rw [bindAll]
      refine ih ?_ as
      by_cases hvw : v = w
      · exact ⟨a, by rw [hvw, bind_self]⟩
      · exact (bind_of_ne env a hvw).symm ▸ h

lemma exists_bindAll_of_mem {v : ValueId} {vs : List ValueId} {as : List α}
    (hlen : as.length = vs.length) (hv : v ∈ vs) (env : Env α) :
    ∃ a, env.bindAll vs as v = some a := by
  induction vs generalizing env as with
  | nil => simp at hv
  | cons w vs ih =>
    cases as with
    | nil => simp at hlen
    | cons a as =>
      rw [bindAll]
      rcases List.mem_cons.mp hv with rfl | hv
      · exact exists_bindAll_of_exists ⟨a, bind_self env v a⟩ vs as
      · exact ih (by simpa using hlen) hv _

/-! ### Reading and assigning -/

@[simp] lemma read_nil (env : Env α) : env.read [] = some [] := rfl

lemma read_cons (env : Env α) (v : ValueId) (vs : List ValueId) :
    env.read (v :: vs) = (env v).bind fun a => (env.read vs).bind fun as => some (a :: as) := by
  simp [read]

lemma read_cons_eq_some {v : ValueId} {vs : List ValueId} {as : List α} :
    env.read (v :: vs) = some as ↔
      ∃ a bs, env v = some a ∧ env.read vs = some bs ∧ as = a :: bs := by
  rw [read_cons]
  simp only [Option.bind_eq_some_iff, Option.some.injEq]
  constructor
  · rintro ⟨a, ha, bs, hbs, rfl⟩
    exact ⟨a, bs, ha, hbs, rfl⟩
  · rintro ⟨a, bs, ha, hbs, rfl⟩
    exact ⟨a, ha, bs, hbs, rfl⟩

lemma read_congr {vs : List ValueId} (h : Set.EqOn env env' {v | v ∈ vs}) :
    env.read vs = env'.read vs := by
  induction vs with
  | nil => rfl
  | cons v vs ih =>
    have hv : env v = env' v := h List.mem_cons_self
    have hvs := ih (h.mono fun w hw => List.mem_cons_of_mem v hw)
    rw [read_cons, read_cons, hv, hvs]

/-- Evaluations that end alike give the same values to whatever lies in the set. -/
lemma EndAlike.bind_read_eq {r r' : Option (Env α)} {vs : List ValueId}
    (h : EndAlike {v | v ∈ vs} r r') :
    (r.bind fun final => final.read vs) = r'.bind fun final => final.read vs := by
  cases h with
  | none => rfl
  | some h => exact read_congr h

lemma length_of_read {vs : List ValueId} {as : List α} (h : env.read vs = some as) :
    as.length = vs.length := by
  induction vs generalizing as with
  | nil => simp_all
  | cons v vs ih =>
    obtain ⟨a, bs, -, hbs, rfl⟩ := read_cons_eq_some.mp h
    simp [ih hbs]

/-- Reading succeeds exactly when everything that is read is bound. -/
lemma exists_read_iff {vs : List ValueId} :
    (∃ as, env.read vs = some as) ↔ ∀ v ∈ vs, ∃ a, env v = some a := by
  induction vs with
  | nil => simp
  | cons v vs ih =>
    rw [List.forall_mem_cons, ← ih]
    constructor
    · rintro ⟨as, has⟩
      obtain ⟨a, bs, ha, hbs, -⟩ := read_cons_eq_some.mp has
      exact ⟨⟨a, ha⟩, ⟨bs, hbs⟩⟩
    · rintro ⟨⟨a, ha⟩, ⟨bs, hbs⟩⟩
      exact ⟨a :: bs, read_cons_eq_some.mpr ⟨a, bs, ha, hbs, rfl⟩⟩

/-- What was read under some numbers is found under the same numbers once it is bound there, also
when a number occurs more than once. -/
lemma bindAll_of_read {vs : List ValueId} {as : List α} (h : env.read vs = some as)
    (start : Env α) {v : ValueId} (hv : v ∈ vs) : start.bindAll vs as v = env v := by
  induction vs generalizing as start with
  | nil => simp at hv
  | cons w vs ih =>
    obtain ⟨a, bs, ha, hbs, rfl⟩ := read_cons_eq_some.mp h
    rw [bindAll]
    -- A later binding of the same number binds what was read there again.
    by_cases hmem : v ∈ vs
    · exact ih hbs _ hmem
    · have hvw : v = w := (List.mem_cons.mp hv).resolve_right hmem
      rw [bindAll_of_not_mem hmem, hvw, bind_self, ha]

/-- What is read from a list of numbers is what is bound to them, position by position. -/
lemma getElem?_of_read {vs : List ValueId} {as : List α} (h : env.read vs = some as) (i : Nat) :
    vs[i]?.bind env = as[i]? := by
  induction vs generalizing as i with
  | nil =>
    cases h
    rfl
  | cons v vs ih =>
    obtain ⟨a, bs, ha, hbs, rfl⟩ := read_cons_eq_some.mp h
    cases i with
    | zero => exact ha
    | succ i => exact ih hbs i

lemma exists_of_mem_read {vs : List ValueId} {as : List α} (h : env.read vs = some as) {a : α}
    (ha : a ∈ as) : ∃ v, env v = some a := by
  obtain ⟨i, hi⟩ := List.mem_iff_getElem?.mp ha
  rw [← getElem?_of_read h i] at hi
  obtain ⟨v, -, hv⟩ := Option.bind_eq_some_iff.mp hi
  exact ⟨v, hv⟩

/-- What was bound to different numbers is read from them. -/
lemma read_bindAll {vs : List ValueId} {as : List α} (hnodup : vs.Nodup)
    (hlen : as.length = vs.length) (env : Env α) : (env.bindAll vs as).read vs = some as := by
  induction vs generalizing env as with
  | nil =>
    obtain rfl := List.length_eq_zero_iff.mp hlen
    rfl
  | cons v vs ih =>
    cases as with
    | nil => cases hlen
    | cons a as =>
      obtain ⟨hv, hrest⟩ := List.nodup_cons.mp hnodup
      have hfirst : (env.bind v a).bindAll vs as v = some a := by
        rw [bindAll_of_not_mem hv, bind_self]
      exact read_cons_eq_some.mpr ⟨a, as, hfirst, ih hrest (Nat.succ.inj hlen) _, rfl⟩

lemma assign_of_read {vs : List ValueId} {as : List α} (h : env.read vs = some as)
    (start : Env α) : start.assign vs as = some (start.bindAll vs as) := by
  rw [assign, if_pos (length_of_read h)]

lemma assign_eq_some {vs : List ValueId} {as : List α} {final : Env α} :
    env.assign vs as = some final ↔ as.length = vs.length ∧ env.bindAll vs as = final := by
  rw [assign]
  split
  · simp [*]
  · simp [*]

lemma assign_endAlike (h : Set.EqOn env env' K) (vs : List ValueId) (as : List α) :
    EndAlike (K ∪ {v | v ∈ vs}) (env.assign vs as) (env'.assign vs as) := by
  by_cases hlen : as.length = vs.length
  · rw [assign, assign, if_pos hlen, if_pos hlen]
    exact Option.Rel.some (eqOn_bindAll hlen h)
  · rw [assign, assign, if_neg hlen, if_neg hlen]
    exact Option.Rel.none

end Env

/-! ### What nodes read from outside -/

namespace Region

lemma mem_reads_cons {known : List ValueId} {n : Node} {ns : List Node} {v : ValueId} :
    v ∈ reads known (n :: ns) ↔
      (v ∈ n.inputs ∧ v ∉ known) ∨ v ∈ reads (known ++ n.outputs) ns := by
  simp [reads]

lemma not_mem_known_of_mem_reads {known : List ValueId} {ns : List Node} {v : ValueId}
    (h : v ∈ reads known ns) : v ∉ known := by
  induction ns generalizing known with
  | nil => simp [reads] at h
  | cons n ns ih =>
    rcases mem_reads_cons.mp h with ⟨-, hv⟩ | hv
    · exact hv
    · intro hmem
      exact ih hv (List.mem_append_left _ hmem)

/-- What nodes read from outside is among what they read. -/
lemma mem_inputs_of_mem_reads {known : List ValueId} {ns : List Node} {v : ValueId}
    (h : v ∈ reads known ns) : v ∈ ns.flatMap Node.inputs := by
  induction ns generalizing known with
  | nil => simp [reads] at h
  | cons n ns ih =>
    rw [List.flatMap_cons, List.mem_append]
    rcases mem_reads_cons.mp h with ⟨hv, -⟩ | hv
    · exact Or.inl hv
    · exact Or.inr (ih hv)

end Region

/-! ### A node -/

open Env

variable {op : Interpretation α}

namespace Node

/-- The results of a node for the values that it reads.  They do not depend on the environment. -/
def results (op : Interpretation α) (n : Node) (args : List α) : Option (List α) :=
  match n.subgraph with
  | none => op n.kind args
  | some g =>
    (Env.empty.assign g.block.inputs args).bind fun start =>
      (Node.evalAll op g.block.nodes start).bind fun final => final.read g.block.outputs

/-- A node reads, computes its results, and assigns them. -/
lemma eval_eq (op : Interpretation α) (n : Node) (env : Env α) :
    n.eval op env =
      (env.read n.inputs).bind fun args => (n.results op args).bind (env.assign n.outputs) := by
  obtain ⟨kind, inputs, outputs, _ | ⟨id, params, nodes, gives⟩⟩ := n
  · simp [Node.eval, results]
  · simp [Node.eval, results, Option.bind_assoc]

lemma eval_eq_some {n : Node} {env final : Env α} :
    n.eval op env = some final ↔
      ∃ args as, env.read n.inputs = some args ∧ n.results op args = some as ∧
        as.length = n.outputs.length ∧ env.bindAll n.outputs as = final := by
  simp only [eval_eq, Option.bind_eq_some_iff, assign_eq_some]
  constructor
  · rintro ⟨args, hargs, as, has, hassign⟩
    exact ⟨args, as, hargs, has, hassign⟩
  · rintro ⟨args, as, hargs, has, hassign⟩
    exact ⟨args, hargs, as, has, hassign⟩

lemma eval_of_not_mem_outputs {n : Node} {env final : Env α} (h : n.eval op env = some final)
    {v : ValueId} (hv : v ∉ n.outputs) : final v = env v := by
  obtain ⟨args, as, -, -, -, rfl⟩ := eval_eq_some.mp h
  exact bindAll_of_not_mem hv env as

lemma exists_of_mem_outputs {n : Node} {env final : Env α} (h : n.eval op env = some final)
    {v : ValueId} (hv : v ∈ n.outputs) : ∃ a, final v = some a := by
  obtain ⟨args, as, -, -, hlen, rfl⟩ := eval_eq_some.mp h
  exact exists_bindAll_of_mem hlen hv env

lemma eval_keeps_bound {n : Node} {env final : Env α} (h : n.eval op env = some final)
    {v : ValueId} (hv : ∃ a, env v = some a) : ∃ a, final v = some a := by
  obtain ⟨args, as, -, -, -, rfl⟩ := eval_eq_some.mp h
  exact exists_bindAll_of_exists hv n.outputs as

lemma exists_of_mem_inputs {n : Node} {env final : Env α} (h : n.eval op env = some final)
    {v : ValueId} (hv : v ∈ n.inputs) : ∃ a, env v = some a := by
  obtain ⟨args, as, hargs, -, -, -⟩ := eval_eq_some.mp h
  exact exists_read_iff.mp ⟨args, hargs⟩ v hv

lemma eval_endAlike {n : Node} {env env' : Env α} {K : Set ValueId} (h : Set.EqOn env env' K)
    (hinputs : ∀ v ∈ n.inputs, v ∈ K) :
    EndAlike (K ∪ {v | v ∈ n.outputs}) (n.eval op env) (n.eval op env') := by
  rw [eval_eq, eval_eq, read_congr (h.mono hinputs)]
  cases env'.read n.inputs with
  | none => exact Option.Rel.none
  | some args =>
    simp only [Option.bind_some]
    cases n.results op args with
    | none => exact Option.Rel.none
    | some as => exact assign_endAlike h n.outputs as

/-! ### Several nodes -/

@[simp] lemma evalAll_nil (env : Env α) : Node.evalAll op [] env = some env := by
  rw [Node.evalAll]

lemma evalAll_cons (n : Node) (ns : List Node) (env : Env α) :
    Node.evalAll op (n :: ns) env = (n.eval op env).bind (Node.evalAll op ns) := by
  rw [Node.evalAll]

lemma evalAll_cons_eq_some {n : Node} {ns : List Node} {env final : Env α} :
    Node.evalAll op (n :: ns) env = some final ↔
      ∃ mid, n.eval op env = some mid ∧ Node.evalAll op ns mid = some final := by
  rw [evalAll_cons, Option.bind_eq_some_iff]

lemma evalAll_append (ns ms : List Node) (env : Env α) :
    Node.evalAll op (ns ++ ms) env = (Node.evalAll op ns env).bind (Node.evalAll op ms) := by
  induction ns generalizing env with
  | nil => simp
  | cons n ns ih =>
    rw [List.cons_append, evalAll_cons, evalAll_cons, Option.bind_assoc]
    simp only [ih]

/-- Values that no node produces keep what they had. -/
lemma evalAll_of_not_produced {ns : List Node} {env final : Env α}
    (h : Node.evalAll op ns env = some final) {v : ValueId} (hv : v ∉ produced ns) :
    final v = env v := by
  induction ns generalizing env with
  | nil => simp_all
  | cons n ns ih =>
    obtain ⟨mid, hmid, hfinal⟩ := evalAll_cons_eq_some.mp h
    rw [produced, List.flatMap_cons, List.mem_append, not_or] at hv
    rw [ih hfinal hv.2, eval_of_not_mem_outputs hmid hv.1]

lemma evalAll_keeps_bound {ns : List Node} {env final : Env α}
    (h : Node.evalAll op ns env = some final) {v : ValueId} (hv : ∃ a, env v = some a) :
    ∃ a, final v = some a := by
  induction ns generalizing env with
  | nil => simp_all
  | cons n ns ih =>
    obtain ⟨mid, hmid, hfinal⟩ := evalAll_cons_eq_some.mp h
    exact ih hfinal (eval_keeps_bound hmid hv)

/-- Everything that the nodes produce is bound in the end. -/
lemma exists_of_mem_produced {ns : List Node} {env final : Env α}
    (h : Node.evalAll op ns env = some final) {v : ValueId} (hv : v ∈ produced ns) :
    ∃ a, final v = some a := by
  induction ns generalizing env with
  | nil => simp [produced] at hv
  | cons n ns ih =>
    obtain ⟨mid, hmid, hfinal⟩ := evalAll_cons_eq_some.mp h
    rw [produced, List.flatMap_cons, List.mem_append] at hv
    rcases hv with hv | hv
    · exact evalAll_keeps_bound hfinal (exists_of_mem_outputs hmid hv)
    · exact ih hfinal hv

/-- A successful evaluation found everything that the nodes read from outside. -/
lemma exists_of_mem_reads {known : List ValueId} {ns : List Node} {env final : Env α}
    (h : Node.evalAll op ns env = some final) {v : ValueId} (hv : v ∈ Region.reads known ns) :
    ∃ a, env v = some a := by
  induction ns generalizing known env with
  | nil => simp [Region.reads] at hv
  | cons n ns ih =>
    obtain ⟨mid, hmid, hfinal⟩ := evalAll_cons_eq_some.mp h
    rcases Region.mem_reads_cons.mp hv with ⟨hinput, -⟩ | hlater
    · exact exists_of_mem_inputs hmid hinput
    · have houtput : v ∉ n.outputs := fun hmem =>
        Region.not_mem_known_of_mem_reads hlater (List.mem_append_right _ hmem)
      rw [← eval_of_not_mem_outputs hmid houtput]
      exact ih hfinal hlater

/-- **Evaluation depends only on what is read from outside.**  From environments that agree on the
values in `known` and on those that the nodes read without finding them there, the evaluations end
alike on all that agreed before and on all that the nodes produce. -/
lemma evalAll_endAlike (known : List ValueId) {ns : List Node} {env env' : Env α}
    {K : Set ValueId} (h : Set.EqOn env env' K) (hknown : ∀ v ∈ known, v ∈ K)
    (hreads : ∀ v ∈ Region.reads known ns, v ∈ K) :
    EndAlike (K ∪ {v | v ∈ produced ns}) (Node.evalAll op ns env) (Node.evalAll op ns env') := by
  induction ns generalizing known env env' K with
  | nil =>
    rw [evalAll_nil, evalAll_nil]
    refine Option.Rel.some (h.mono ?_)
    rintro v (hv | hv)
    · exact hv
    · simp [produced] at hv
  | cons n ns ih =>
    rw [evalAll_cons, evalAll_cons]
    have hinputs : ∀ v ∈ n.inputs, v ∈ K := by
      intro v hv
      by_cases hmem : v ∈ known
      · exact hknown v hmem
      · exact hreads v (Region.mem_reads_cons.mpr (Or.inl ⟨hv, hmem⟩))
    refine (eval_endAlike h hinputs).bind fun mid mid' hmid => ?_
    -- For the rest of the list the outputs of the first node are known.
    have hrest : EndAlike (K ∪ {v | v ∈ n.outputs} ∪ {v | v ∈ produced ns})
        (Node.evalAll op ns mid) (Node.evalAll op ns mid') := by
      refine ih (known ++ n.outputs) hmid ?_ ?_
      · intro v hv
        rcases List.mem_append.mp hv with hv | hv
        · exact Or.inl (hknown v hv)
        · exact Or.inr hv
      · intro v hv
        exact Or.inl (hreads v (Region.mem_reads_cons.mpr (Or.inr hv)))
    refine hrest.mono ?_
    rintro v (hv | hv)
    · exact Or.inl (Or.inl hv)
    · rcases List.mem_append.mp (show v ∈ n.outputs ++ produced ns from hv) with hv | hv
      · exact Or.inl (Or.inr hv)
      · exact Or.inr hv

end Node

end Delegation
