import Delegation.Operators
import Delegation.Proofs.Resolution.Calls
/-!
# The tiers of a resolution

A node is served by the first of three tiers that has something for it: a runner under the identity
of its subgraph, a runner under the name of its kind, a compiler.  `Context.Serves` says which tier
that is from what stands in the cache, and without a subgraph there is none.

`Tiered` is all that an inquiry for the runner of a node may do, tier by tier: what it answers, which
calls of the compiler it makes, what becomes of the cache, and what the next inquiry will find.  The
main statement, `Context.inquiries_tiered`, says that this is what a resolution does, and that asking
for a delegated operation does the same, whether the context is asked or the operator table.
-/

namespace Delegation

variable {σ ρ η ε α : Type}

/-! ### Which tier serves a node -/

/-- What serves a node. -/
inductive Tier (ρ : Type) where
  /-- Nothing does, as the node has no subgraph. -/
  | missing
  /-- A runner under the identity of the subgraph. -/
  | identity (r : ρ)
  /-- A runner under the name of the kind, and there is none under the identity. -/
  | name (r : ρ)
  /-- The compiler, as there is no runner under either key for this subgraph. -/
  | compiler (g : Subgraph Node)

/-- What serves a node in a context now. -/
inductive Context.Serves (ctx : Context σ ρ η) (n : Node) (w : World σ ρ) : Tier ρ → Prop where
  | missing (hn : n.subgraph = none) : Serves ctx n w .missing
  | identity {g : Subgraph Node} {r : ρ} (hn : n.subgraph = some g)
      (hg : (w.caches ctx.cache).get? (.identity g.id) = some r) : Serves ctx n w (.identity r)
  | name {g : Subgraph Node} {r : ρ} (hn : n.subgraph = some g)
      (hg : (w.caches ctx.cache).get? (.identity g.id) = none)
      (hk : (w.caches ctx.cache).get? (.name n.kind.qualified) = some r) : Serves ctx n w (.name r)
  | compiler {g : Subgraph Node} (hn : n.subgraph = some g)
      (hg : (w.caches ctx.cache).get? (.identity g.id) = none)
      (hk : (w.caches ctx.cache).get? (.name n.kind.qualified) = none) :
      Serves ctx n w (.compiler g)

namespace Context

variable {ctx : Context σ ρ η} {n : Node} {w : World σ ρ}

/-- Every node is served by exactly one tier. -/
lemma existsUnique_serves (ctx : Context σ ρ η) (n : Node) (w : World σ ρ) :
    ∃! tier, ctx.Serves n w tier := by
  have hunique : ∀ {tier tier'}, ctx.Serves n w tier → ctx.Serves n w tier' → tier' = tier := by
    intro tier tier' h h'
    cases h <;> cases h' <;> simp_all
  cases hn : n.subgraph with
  | none => exact ⟨.missing, .missing hn, fun _ => hunique (.missing hn)⟩
  | some g =>
    cases hg : (w.caches ctx.cache).get? (.identity g.id) with
    | some r => exact ⟨.identity r, .identity hn hg, fun _ => hunique (.identity hn hg)⟩
    | none =>
      cases hk : (w.caches ctx.cache).get? (.name n.kind.qualified) with
      | some r => exact ⟨.name r, .name hn hg hk, fun _ => hunique (.name hn hg hk)⟩
      | none => exact ⟨.compiler g, .compiler hn hg hk, fun _ => hunique (.compiler hn hg hk)⟩

/-- How the compiler ends when it is asked for a subgraph now, and what it leaves outside. -/
def compile (ctx : Context σ ρ η) (g : Subgraph Node) (w : World σ ρ) : Exit RunError ρ × σ :=
  ctx.factory (ctx.request w g) w.outside

end Context

/-! ### What an inquiry does, tier by tier -/

/-- An inquiry for the runner of a node, which wraps up the runner that it finds and turns errors
into errors of its own, goes by the three tiers. -/
structure Tiered (ctx : Context σ ρ η) (n : Node) (wrap : ρ → α) (refuse : RunError → ε)
    (ask : World σ ρ → Exit ε α × World σ ρ) (calls : World σ ρ → List (FactoryCall ρ η)) :
    Prop where
  /-- A node without a subgraph is refused, and nothing else happens. -/
  missing : ∀ w, ctx.Serves n w .missing →
    ask w = (.failed (refuse (.missingSubgraph n.kind)), w) ∧ calls w = []
  /-- A runner that is found is given, and nothing else happens. -/
  found : ∀ w r, ctx.Serves n w (.identity r) ∨ ctx.Serves n w (.name r) →
    ask w = (.returned (wrap r), w) ∧ calls w = []
  /-- Otherwise the compiler is called once. -/
  called : ∀ w g, ctx.Serves n w (.compiler g) →
    calls w = [⟨ctx.request w g, (ctx.compile g w).1⟩]
  /-- The runner that the compiler returns is given and added under the identity of the subgraph.
  No other key, no other cache and nothing but what the compiler did outside is different. -/
  built : ∀ w g r, ctx.Serves n w (.compiler g) → (ctx.compile g w).1 = .returned r →
    (ask w).1 = .returned (wrap r) ∧
    (∀ k, ((ask w).2.caches ctx.cache).get? k =
      if k = .identity g.id then some r else (w.caches ctx.cache).get? k) ∧
    (ask w).2 = { w.setCache ctx.cache ((ask w).2.caches ctx.cache) with
      outside := (ctx.compile g w).2 }
  /-- If the compiler fails or panics, so does the inquiry, and no cache is different. -/
  unbuilt : ∀ w g, ctx.Serves n w (.compiler g) → (∀ r, (ctx.compile g w).1 ≠ .returned r) →
    ask w = (((ctx.compile g w).1.mapError refuse).map wrap,
      { w with outside := (ctx.compile g w).2 })
  /-- What an inquiry gave, the next one gives again without a build. -/
  again : ∀ w a, (ask w).1 = .returned a →
    ask (ask w).2 = (.returned a, (ask w).2) ∧ calls (ask w).2 = []
  /-- After a compiler that failed or panicked the next inquiry asks it the same once more. -/
  retried : ∀ w g, ctx.Serves n w (.compiler g) → (∀ r, (ctx.compile g w).1 ≠ .returned r) →
    ∃ exit, calls (ask w).2 = [⟨ctx.request w g, exit⟩]

namespace Context

variable {ctx : Context σ ρ η} {n : Node} {w : World σ ρ} {g : Subgraph Node} {r : ρ}

lemma resolve_of_unserved (h : ctx.Serves n w .missing) :
    ctx.resolve n w = (.failed (.missingSubgraph n.kind), w) ∧ ctx.callsOfResolve n w = [] := by
  cases h with
  | missing hn =>
    refine ⟨resolve_of_missing hn, callsOfResolve_of_hit fun g hg => ?_⟩
    rw [hn] at hg
    cases hg

lemma resolve_of_found (h : ctx.Serves n w (.identity r) ∨ ctx.Serves n w (.name r)) :
    ctx.resolve n w = (.returned r, w) ∧ ctx.callsOfResolve n w = [] := by
  rcases h with h | h
  · cases h with
    | identity hn hg =>
      refine ⟨resolve_of_identity hn hg, callsOfResolve_of_hit fun g' hg' => ?_⟩
      cases hn.symm.trans hg'
      exact Or.inl ⟨r, hg⟩
  · cases h with
    | name hn hg hk =>
      exact ⟨resolve_of_name hn hg hk, callsOfResolve_of_hit fun _ _ => Or.inr ⟨r, hk⟩⟩

lemma resolve_of_compiler (h : ctx.Serves n w (.compiler g)) :
    ctx.resolve n w = ctx.buildIdentity g w ∧
      ctx.callsOfResolve n w = [⟨ctx.request w g, (ctx.compile g w).1⟩] := by
  cases h with
  | compiler hn hg hk =>
    have hexit : (ctx.buildIdentity g w).1 = (ctx.compile g w).1 :=
      World.getOrInsert_fst_of_none hg _
    rw [← hexit]
    exact ⟨resolve_of_absent hn hg hk, callsOfResolve_of_absent hn hg hk⟩

lemma resolve_of_built (h : ctx.Serves n w (.compiler g))
    (hr : (ctx.compile g w).1 = .returned r) :
    ∃ hg, ctx.resolve n w = (.returned r,
      { w.setCache ctx.cache ((w.caches ctx.cache).insert (.identity g.id) r hg) with
        outside := (ctx.compile g w).2 }) := by
  rw [(resolve_of_compiler h).1]
  cases h with
  | compiler hn hg hk => exact ⟨hg, World.getOrInsert_of_returned hg (Prod.ext hr rfl)⟩

lemma resolve_of_unbuilt (h : ctx.Serves n w (.compiler g))
    (hr : ∀ r, (ctx.compile g w).1 ≠ .returned r) :
    ctx.resolve n w = ((ctx.compile g w).1, { w with outside := (ctx.compile g w).2 }) := by
  rw [(resolve_of_compiler h).1]
  cases h with
  | compiler hn hg hk => exact World.getOrInsert_of_not_returned hg hr

/-- The subgraph of a node that is left to the compiler. -/
lemma Serves.subgraph_eq (h : ctx.Serves n w (.compiler g)) : n.subgraph = some g := by
  cases h with
  | compiler hn hg hk => exact hn

/-- A runner that was resolved is found by the next resolution. -/
lemma serves_of_returned (h : (ctx.resolve n w).1 = .returned r) :
    ctx.Serves n (ctx.resolve n w).2 (.identity r) ∨ ctx.Serves n (ctx.resolve n w).2 (.name r) := by
  obtain ⟨tier, htier, -⟩ := existsUnique_serves ctx n w
  cases tier with
  | missing =>
    rw [(resolve_of_unserved htier).1] at h
    cases h
  | identity r' =>
    rw [(resolve_of_found (Or.inl htier)).1] at h ⊢
    cases h
    exact Or.inl htier
  | name r' =>
    rw [(resolve_of_found (Or.inr htier)).1] at h ⊢
    cases h
    exact Or.inr htier
  | compiler g =>
    rw [(resolve_of_compiler htier).1] at h ⊢
    exact Or.inl (.identity htier.subgraph_eq (lookupIdentity_buildIdentity h))

end Context

/-! ### The inquiries -/

/-- An inquiry that resolves and wraps up what comes of it goes by the three tiers. -/
lemma Tiered.of_resolve {ctx : Context σ ρ η} {n : Node} {wrap : ρ → α} {refuse : RunError → ε}
    {ask : World σ ρ → Exit ε α × World σ ρ} {calls : World σ ρ → List (FactoryCall ρ η)}
    (hask : ∀ w, ask w =
      (((ctx.resolve n w).1.mapError refuse).map wrap, (ctx.resolve n w).2))
    (hcalls : ∀ w, calls w = ctx.callsOfResolve n w) : Tiered ctx n wrap refuse ask calls where
  missing w h := by
    obtain ⟨hresolve, hnone⟩ := Context.resolve_of_unserved h
    rw [hask, hcalls, hresolve]
    exact ⟨rfl, hnone⟩
  found w r h := by
    obtain ⟨hresolve, hnone⟩ := Context.resolve_of_found h
    rw [hask, hcalls, hresolve]
    exact ⟨rfl, hnone⟩
  called w g h := by
    rw [hcalls, (Context.resolve_of_compiler h).2]
  built w g r h hr := by
    obtain ⟨hg, hresolve⟩ := Context.resolve_of_built h hr
    rw [hask, hresolve]
    refine ⟨rfl, fun k => ?_, ?_⟩
    · simp only [World.setCache_caches, Cache.get?_insert]
    · simp only [World.setCache_caches]
  unbuilt w g h hr := by
    rw [hask, Context.resolve_of_unbuilt h hr]
  again w a h := by
    simp only [hask] at h
    cases hr : (ctx.resolve n w).1 with
    | returned r =>
      rw [hr] at h
      cases h
      obtain ⟨hresolve, hnone⟩ := Context.resolve_of_found (Context.serves_of_returned hr)
      refine ⟨?_, (hcalls _).trans ?_⟩
      · simp only [hask, hresolve]
        rfl
      · rw [hask, hnone]
    | failed e =>
      rw [hr] at h
      cases h
    | panicked m =>
      rw [hr] at h
      cases h
  retried w g h hr := by
    -- The caches are the same, so that the compiler serves the node again.
    have hagain : ctx.Serves n { w with outside := (ctx.compile g w).2 } (.compiler g) := by
      cases h with
      | compiler hn hg hk => exact .compiler hn hg hk
    rw [hask, hcalls, Context.resolve_of_unbuilt h hr]
    exact ⟨_, (Context.resolve_of_compiler hagain).2⟩

/-- The compiler calls of an inquiry in a context that notes them down. -/
def callsOf (ask : World (σ × List (FactoryCall ρ η)) ρ →
    Exit ε α × World (σ × List (FactoryCall ρ η)) ρ) (w : World σ ρ) : List (FactoryCall ρ η) :=
  (ask w.recording).2.outside.2

/-- The operators of a kind are delegated to a context. -/
def OperatorTable.Delegates (t : OperatorTable σ ρ) (kind : Symbol) (ctx : Context σ ρ η) : Prop :=
  ∃ e, t.lookup kind = some e ∧ e.factory = delegatedFactory ctx

/-- A kind that was registered as a delegated operator is delegated. -/
lemma OperatorTable.delegates_of_registerDelegated {t t' : OperatorTable σ ρ} {kind : Symbol}
    {ctx : Context σ ρ η} (h : t.registerDelegated ctx kind = .ok t') : t'.Delegates kind ctx := by
  rw [registerDelegated, register] at h
  split at h
  · cases h
  · rename_i hfree
    cases h
    have hnone : t.entries.find? (fun e => e.symbol = kind) = none := by
      simpa [contains, lookup] using hfree
    refine ⟨⟨kind, .pureFunction, delegatedFactory ctx⟩, ?_, rfl⟩
    simp [lookup, hnone]

lemma OperatorTable.Delegates.createOperation_eq {t : OperatorTable σ ρ} {n : Node}
    {ctx : Context σ ρ η} (h : t.Delegates n.kind ctx) (w : World σ ρ) :
    t.createOperation n w =
      (((ctx.resolve n w).1.mapError .ofResolution).map fun r => .delegated ⟨r, ctx.switch⟩,
        (ctx.resolve n w).2) := by
  obtain ⟨e, hlookup, hfactory⟩ := h
  simp only [createOperation, hlookup, hfactory, delegatedFactory, DelegatedOperation.forNode]
  cases (ctx.resolve n w).1 <;> rfl

/-- **Three tiers, one key, and nothing on failure.**  Whatever a cache holds, a node is served by
exactly one tier.  A resolution goes by the tiers; and so do the inquiries of a host for a delegated
operation, which give the runner with the switch of the context and turn an error into a runtime
exception with the text of the error. -/
theorem Context.inquiries_tiered (ctx : Context σ ρ η) (n : Node) :
    (∀ w, ∃! tier, ctx.Serves n w tier) ∧
    Tiered ctx n (fun r => r) (fun e => e) (ctx.resolve n) (callsOf (ctx.recorded.resolve n)) ∧
    Tiered ctx n (fun r => ⟨r, ctx.switch⟩) (fun e => ⟨.runtime, e.message⟩)
      (DelegatedOperation.forNode ctx n) (callsOf (DelegatedOperation.forNode ctx.recorded n)) ∧
    ∀ t t', OperatorTable.Delegates t n.kind ctx → OperatorTable.Delegates t' n.kind ctx.recorded →
      Tiered ctx n (fun r => .delegated ⟨r, ctx.switch⟩) (fun e => ⟨.runtime, e.message⟩)
        (t.createOperation n) (callsOf (t'.createOperation n)) := by
  refine ⟨existsUnique_serves ctx n, .of_resolve (fun w => ?_) fun _ => rfl,
    .of_resolve (fun _ => rfl) fun _ => rfl, ?_⟩
  · cases h : ctx.resolve n w with
    | mk exit w' => cases exit <;> rfl
  · intro t t' ht ht'
    refine .of_resolve ht.createOperation_eq fun w => ?_
    rw [callsOf, ht'.createOperation_eq]
    rfl

/-- A compiler fails at first and then returns a runner.  The failure leaves nothing behind, and the
runner of the second attempt is given again by the third. -/
theorem Context.inquiries_tiered_after_failure :
    let ctx : Context Nat Nat Unit :=
      ⟨⟨0⟩, .global, fun _ s => (if s = 0 then .failed (.compilation "busy") else .returned s, s + 1),
        defaultHost, defaultBackend, .global⟩
    let g : Subgraph Node := ⟨⟨5⟩, ⟨[], [], []⟩⟩
    let n : Node := ⟨⟨"box", "fused"⟩, [], [], some g⟩
    let t : OperatorTable Nat Nat := ⟨[⟨n.kind, .pureFunction, OperatorTable.delegatedFactory ctx⟩]⟩
    let first : World Nat Nat := World.start ⟨0⟩ 0
    let second := (t.createOperation n first).2
    let third := (t.createOperation n second).2
    t.Delegates n.kind ctx ∧
      (t.createOperation n first).1 = .failed ⟨.runtime, "Compilation failed: busy"⟩ ∧
      second = { first with outside := 1 } ∧
      (t.createOperation n second).1 = .returned (.delegated ⟨1, .global⟩) ∧
      (third.caches .global).get? (.identity g.id) = some 1 ∧
      t.createOperation n third = (.returned (.delegated ⟨1, .global⟩), third) := by
  intro ctx g n t first second third
  have ht : t.Delegates n.kind ctx := ⟨_, rfl, rfl⟩
  have htiered := (inquiries_tiered ctx n).2.2.2 t
    ⟨[⟨n.kind, .pureFunction, OperatorTable.delegatedFactory ctx.recorded⟩]⟩ ht ⟨_, rfl, rfl⟩
  have hserves : ∀ s, ctx.Serves n { first with outside := s } (.compiler g) :=
    fun s => .compiler rfl rfl rfl
  have hfirst := htiered.unbuilt first g (hserves 0) (by simp [compile, ctx, first, World.start])
  have hsecond : second = { first with outside := 1 } := congrArg Prod.snd hfirst
  obtain ⟨hreturned, hcache, -⟩ :=
    htiered.built second g 1 (hsecond ▸ hserves 1) (by rw [hsecond]; rfl)
  refine ⟨ht, congrArg Prod.fst hfirst, hsecond, hreturned, ?_, (htiered.again second _ hreturned).1⟩
  rw [hcache, if_pos rfl]

end Delegation
