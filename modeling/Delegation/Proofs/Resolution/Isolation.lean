import Delegation.Backend.Bench
import Delegation.Proofs.Key.Injectivity
import Delegation.Proofs.Resolution.Tiers
import Delegation.Proofs.Symbol.Parsing
/-!
# What a preload leaves alone

Identity keys and name keys are bytes in one cache.  A runner that is preloaded for one kind must
not reach the nodes of another kind, and it does not, as long as the name of the first kind is not
written with the eight bytes of an address.

The comparison is between two runs of one resolution, from two shared states that differ in what
stands under one key (`Context.AlikeBut`).  If the node is not looked for under this key
(`Node.Avoids`), it is served by the same tier, and the compiler is asked the same.

The compiler is outside code, and a preload may use it too.  One that numbers its runners answers
the same question with another runner after a preload, and that runner is added under the identity
of the node (`Context.preloadSubgraph_shifts_entry`).  This is the only entry that can differ beside
the preloaded one, and for a compiler that goes by what it is asked (`Factory.ByRequest`) it does
not: `Context.preload_isolated`.
-/

namespace Delegation

variable {σ ρ η : Type}

/-- A node is not looked for under a key. -/
structure Node.Avoids (n : Node) (k : Key) : Prop where
  identity : ∀ g, n.subgraph = some g → .identity g.id ≠ k
  name : .name n.kind.qualified ≠ k

/-- How the compiler ends depends on what it is asked alone. -/
def Factory.ByRequest (f : Factory σ ρ η) : Prop :=
  ∀ request s s', (f request s).1 = (f request s').1

namespace Context

/-! ### Two runs of one resolution -/

/-- Two shared states are the same to a context, but for what stands under one key of its cache and
for the state of outside code. -/
structure AlikeBut (ctx : Context σ ρ η) (k : Key) (w w' : World σ ρ) : Prop where
  entries : ∀ j, j ≠ k → (w'.caches ctx.cache).get? j = (w.caches ctx.cache).get? j
  settings : ctx.settings w' = ctx.settings w

/-- The resolution of a node goes in `w'` as in `w`, as far as the program is concerned. -/
structure Isolated (ctx : Context σ ρ η) (n : Node) (k : Key) (w w' : World σ ρ) : Prop where
  /-- The node is served by the same tier, and by the same runner if there is one. -/
  tier : ∀ tier, ctx.Serves n w' tier ↔ ctx.Serves n w tier
  /-- The compiler is asked the same. -/
  requests : (ctx.callsOfResolve n w').map FactoryCall.request =
    (ctx.callsOfResolve n w).map FactoryCall.request
  /-- The final caches differ under `k` at most, and under the identity of the node if the compiler
  serves it. -/
  others : ∀ j, j ≠ k → (∀ g, ctx.Serves n w (.compiler g) → j ≠ .identity g.id) →
    ((ctx.resolve n w').2.caches ctx.cache).get? j = ((ctx.resolve n w).2.caches ctx.cache).get? j
  /-- They differ under `k` at most exactly if the compiler, being asked the same, returns the same
  runner or none in both runs. -/
  entries : (∀ j, j ≠ k → ((ctx.resolve n w').2.caches ctx.cache).get? j =
      ((ctx.resolve n w).2.caches ctx.cache).get? j) ↔
    (ctx.callsOfResolve n w').map (fun c => c.exit.value?) =
      (ctx.callsOfResolve n w).map (fun c => c.exit.value?)

/-- The resolution of a node comes to the same in `w'` as in `w`. -/
structure SameBut (ctx : Context σ ρ η) (n : Node) (k : Key) (w w' : World σ ρ) : Prop where
  exit : (ctx.resolve n w').1 = (ctx.resolve n w).1
  calls : ctx.callsOfResolve n w' = ctx.callsOfResolve n w
  entries : ∀ j, j ≠ k → ((ctx.resolve n w').2.caches ctx.cache).get? j =
    ((ctx.resolve n w).2.caches ctx.cache).get? j

variable {ctx : Context σ ρ η} {n : Node} {g : Subgraph Node} {k : Key} {w w' : World σ ρ}

lemma AlikeBut.symm (h : ctx.AlikeBut k w w') : ctx.AlikeBut k w' w :=
  ⟨fun j hj => (h.entries j hj).symm, h.settings.symm⟩

lemma AlikeBut.request_eq (h : ctx.AlikeBut k w w') (g : Subgraph Node) :
    ctx.request w' g = ctx.request w g := by
  rw [request, request, h.settings]

lemma AlikeBut.serves (h : ctx.AlikeBut k w w') (hn : n.Avoids k) {tier : Tier ρ}
    (hserves : ctx.Serves n w tier) : ctx.Serves n w' tier := by
  cases hserves with
  | missing hsub => exact .missing hsub
  | identity hsub hg => exact .identity hsub ((h.entries _ (hn.identity _ hsub)).trans hg)
  | name hsub hg hk =>
    exact .name hsub ((h.entries _ (hn.identity _ hsub)).trans hg) ((h.entries _ hn.name).trans hk)
  | compiler hsub hg hk =>
    exact .compiler hsub ((h.entries _ (hn.identity _ hsub)).trans hg)
      ((h.entries _ hn.name).trans hk)

/-- Unless the compiler is called, a resolution only looks. -/
lemma resolve_of_idle (h : ∀ g, ¬ ctx.Serves n w (.compiler g)) :
    (ctx.resolve n w).2 = w ∧ ctx.callsOfResolve n w = [] := by
  obtain ⟨tier, htier, -⟩ := existsUnique_serves ctx n w
  cases tier with
  | missing =>
    obtain ⟨hresolve, hnone⟩ := resolve_of_unserved htier
    exact ⟨congrArg Prod.snd hresolve, hnone⟩
  | identity r =>
    obtain ⟨hresolve, hnone⟩ := resolve_of_found (Or.inl htier)
    exact ⟨congrArg Prod.snd hresolve, hnone⟩
  | name r =>
    obtain ⟨hresolve, hnone⟩ := resolve_of_found (Or.inr htier)
    exact ⟨congrArg Prod.snd hresolve, hnone⟩
  | compiler g => exact absurd htier (h g)

/-- When the compiler is called, its end is the end of the resolution. -/
lemma fst_resolve_of_compiler (h : ctx.Serves n w (.compiler g)) :
    (ctx.resolve n w).1 = (ctx.compile g w).1 := by
  rw [(resolve_of_compiler h).1]
  cases h with
  | compiler hsub hg hk => exact World.getOrInsert_fst_of_none hg _

/-- The entries after the compiler was called: under the identity stands what it returned. -/
lemma get?_resolve_of_compiler (h : ctx.Serves n w (.compiler g)) (j : Key) :
    ((ctx.resolve n w).2.caches ctx.cache).get? j =
      if j = .identity g.id then (ctx.compile g w).1.value? else (w.caches ctx.cache).get? j := by
  rcases (ctx.compile g w).1.returned_or_not with ⟨r, hr⟩ | hnot
  · obtain ⟨hg, hresolve⟩ := resolve_of_built h hr
    simp only [hresolve, World.setCache_caches, Cache.get?_insert, hr, Exit.value?]
  · have hvalue : (ctx.compile g w).1.value? = none := by
      generalize (ctx.compile g w).1 = exit at hnot
      cases exit with
      | returned r => exact absurd rfl (hnot r)
      | failed e => rfl
      | panicked m => rfl
    rw [resolve_of_unbuilt h hnot, hvalue]
    split
    · rename_i hj
      cases h with
      | compiler hsub hg hk => rw [hj, ← hg]
    · rfl

/-- A resolution changes no entry but the one that the compiler may fill. -/
lemma get?_resolve_of_ne {j : Key} (hj : ∀ g, ctx.Serves n w (.compiler g) → j ≠ .identity g.id) :
    ((ctx.resolve n w).2.caches ctx.cache).get? j = (w.caches ctx.cache).get? j := by
  by_cases hcompiler : ∃ g, ctx.Serves n w (.compiler g)
  · obtain ⟨g, hg⟩ := hcompiler
    rw [get?_resolve_of_compiler hg, if_neg (hj g hg)]
  · rw [(resolve_of_idle fun g hg => hcompiler ⟨g, hg⟩).1]

lemma AlikeBut.isolated (h : ctx.AlikeBut k w w') (hn : n.Avoids k) : ctx.Isolated n k w w' := by
  have htier : ∀ tier, ctx.Serves n w' tier ↔ ctx.Serves n w tier :=
    fun tier => ⟨h.symm.serves hn, h.serves hn⟩
  have hothers : ∀ j, j ≠ k → (∀ g, ctx.Serves n w (.compiler g) → j ≠ .identity g.id) →
      ((ctx.resolve n w').2.caches ctx.cache).get? j =
        ((ctx.resolve n w).2.caches ctx.cache).get? j := by
    intro j hj hother
    have hother' : ∀ g, ctx.Serves n w' (.compiler g) → j ≠ .identity g.id :=
      fun g hg => hother g ((htier _).mp hg)
    rw [get?_resolve_of_ne hother', get?_resolve_of_ne hother, h.entries j hj]
  by_cases hcompiler : ∃ g, ctx.Serves n w (.compiler g)
  · obtain ⟨g, hw⟩ := hcompiler
    have hw' := (htier _).mpr hw
    have hcalls := (resolve_of_compiler hw).2
    have hcalls' := (resolve_of_compiler hw').2
    refine ⟨htier, by simp [hcalls, hcalls', h.request_eq], hothers, ?_⟩
    simp only [hcalls, hcalls', List.map_cons, List.map_nil, List.cons.injEq, and_true,
      get?_resolve_of_compiler hw, get?_resolve_of_compiler hw']
    constructor
    · intro hall
      simpa using hall (.identity g.id) (hn.identity g hw.subgraph_eq)
    · intro hvalue j hj
      rw [hvalue, h.entries j hj]
  · have hidle : ∀ g, ¬ ctx.Serves n w (.compiler g) := fun g hg => hcompiler ⟨g, hg⟩
    have hcalls := (resolve_of_idle hidle).2
    have hcalls' := (resolve_of_idle fun g hg => hidle g ((htier _).mp hg)).2
    refine ⟨htier, by rw [hcalls, hcalls'], hothers, ?_⟩
    rw [hcalls, hcalls']
    exact ⟨fun _ => rfl, fun _ j hj => hothers j hj fun g hg => absurd hg (hidle g)⟩

/-- **What stands under a key that a node avoids has no part in its resolution** by a compiler that
goes by what it is asked. -/
lemma AlikeBut.sameBut (h : ctx.AlikeBut k w w') (hn : n.Avoids k)
    (hfactory : ctx.factory.ByRequest) : ctx.SameBut n k w w' := by
  have hcompile : ∀ g, (ctx.compile g w').1 = (ctx.compile g w).1 := fun g => by
    rw [compile, compile, h.request_eq]
    exact hfactory _ _ _
  have hsame : (ctx.resolve n w').1 = (ctx.resolve n w).1 ∧
      ctx.callsOfResolve n w' = ctx.callsOfResolve n w := by
    obtain ⟨tier, hw, -⟩ := existsUnique_serves ctx n w
    have hw' := h.serves hn hw
    cases tier with
    | missing =>
      simp only [resolve_of_unserved hw, resolve_of_unserved hw', and_self]
    | identity r =>
      simp only [resolve_of_found (Or.inl hw), resolve_of_found (Or.inl hw'), and_self]
    | name r =>
      simp only [resolve_of_found (Or.inr hw), resolve_of_found (Or.inr hw'), and_self]
    | compiler g =>
      rw [fst_resolve_of_compiler hw, fst_resolve_of_compiler hw', (resolve_of_compiler hw).2,
        (resolve_of_compiler hw').2, hcompile, h.request_eq]
      exact ⟨rfl, rfl⟩
  refine ⟨hsame.1, hsame.2, (h.isolated hn).entries.mpr ?_⟩
  rw [hsame.2]

/-! ### A preload in front of a resolution -/

/-- A preload changes no entry but the one under its name, and no settings. -/
lemma alikeBut_preload (ctx : Context σ ρ η) (s : Symbol) (build : σ → Exit RunError ρ × σ)
    (w : World σ ρ) : ctx.AlikeBut (.name s.qualified) w (ctx.preload s build w).2 where
  entries j hj := by
    ext r
    rw [preload, World.get?_getOrInsert]
    simp [hj]
  settings := rfl

/-- Kinds that can be read are written differently, so that their nodes do not share name keys. -/
lemma avoids_of_parse {s : Symbol} (hs : ∃ text, Symbol.parse text = .ok s)
    (ht : ∃ text, Symbol.parse text = .ok n.kind) (hne : s ≠ n.kind)
    (hbytes : ∀ g, n.subgraph = some g → (Key.identity g.id).bytes ≠ Utf8.encode s.qualified) :
    n.Avoids (.name s.qualified) where
  identity g hg h := hbytes g hg (Key.identity_eq_name_iff.mp h)
  name h := by
    obtain ⟨text, hs⟩ := hs
    obtain ⟨text', ht⟩ := ht
    have hqualified := Key.name_injective h
    rw [Symbol.qualified_of_parse hs, Symbol.qualified_of_parse ht] at hqualified
    rw [hqualified, hs] at ht
    exact hne (Except.ok.inj ht)

/-- **Key spaces and preloads.**  Identity keys have eight bytes and different ones for different
addresses, name keys have different bytes for different names, and the two kinds meet only where a
name is written with eight bytes that write the address.

A runner is preloaded for a kind `s` before a node of another kind is resolved; both kinds can be
read, and the name of `s` is not written with the bytes of the node's identity key.  Then the node
is served by the same tier as without the preload, the compiler is asked the same, and the final
caches differ under the name of `s` at most, and under the identity of the node exactly if the
compiler serves it and answers otherwise than without the preload.  A compiler that goes by what it
is asked does not: then everything comes to the same. -/
theorem preload_isolated (ctx : Context σ ρ η) (w : World σ ρ) :
    (∀ a b : UInt64, (Key.identity ⟨a⟩).size = 8 ∧ (Key.identity ⟨a⟩ = Key.identity ⟨b⟩ ↔ a = b)) ∧
    (∀ p q, Key.name p = Key.name q ↔ p = q) ∧
    (∀ (a : UInt64) q, Key.identity ⟨a⟩ = Key.name q ↔
      (Utf8.encode q).length = 8 ∧ Key.ofLittleEndian (Utf8.encode q) = a.toNat) ∧
    ∀ (s : Symbol) (n : Node) (build : σ → Exit RunError ρ × σ),
      (∃ text, Symbol.parse text = .ok s) → (∃ text, Symbol.parse text = .ok n.kind) →
      s ≠ n.kind →
      (∀ g, n.subgraph = some g → (Key.identity g.id).bytes ≠ Utf8.encode s.qualified) →
      let w' := (ctx.preload s build w).2
      ctx.Isolated n (.name s.qualified) w w' ∧
        (ctx.factory.ByRequest → ctx.SameBut n (.name s.qualified) w w') := by
  refine ⟨fun a b => ⟨Key.size_identity ⟨a⟩, ?_⟩, fun p q => Key.name_injective.eq_iff,
    fun a q => Key.identity_eq_name_iff_writes, ?_⟩
  · rw [Key.identity_injective.eq_iff, BlockId.mk.injEq]
  · intro s n build hs ht hne hbytes w'
    have hn := avoids_of_parse hs ht hne hbytes
    have hpreload := alikeBut_preload ctx s build w
    exact ⟨hpreload.isolated hn, hpreload.sameBut hn⟩

/-- A name of eight bytes, as many as an identity key has, does not disturb a node. -/
theorem preload_isolated_eight_bytes :
    let ctx : Context Nat Nat Unit :=
      ⟨⟨0⟩, .global, fun _ s => (.returned 7, s + 1), defaultHost, defaultBackend, .global⟩
    let s : Symbol := ⟨"aten", "ab"⟩
    let g : Subgraph Node := ⟨⟨5⟩, ⟨[], [], []⟩⟩
    let n : Node := ⟨⟨"box", "fused"⟩, [], [], some g⟩
    let w : World Nat Nat := World.start ⟨0⟩ 0
    let w' := (ctx.preload s (fun s => (.returned 3, s + 1)) w).2
    (Utf8.encode s.qualified).length = (Key.identity g.id).size ∧
      ctx.factory.ByRequest ∧
      (w'.caches .global).get? (.name s.qualified) = some 3 ∧
      ctx.Serves n w' (.compiler g) ∧
      ∀ j, j ≠ .name s.qualified → ((ctx.resolve n w').2.caches .global).get? j =
        ((ctx.resolve n w).2.caches .global).get? j := by
  intro ctx s g n w w'
  have hbytes : ∀ g, n.subgraph = some g → (Key.identity g.id).bytes ≠ Utf8.encode s.qualified := by
    intro g' hg'
    cases hg'
    decide
  have hfactory : ctx.factory.ByRequest := fun _ _ _ => rfl
  obtain ⟨hisolated, hsame⟩ := (preload_isolated ctx w).2.2.2 s n _ ⟨"aten::ab", rfl⟩
    ⟨"box::fused", rfl⟩ (by decide) hbytes
  exact ⟨by decide, hfactory, by decide, (hisolated.tier _).mpr (.compiler rfl rfl rfl),
    (hsame hfactory).entries⟩

/-- A compiler that numbers its runners has built one more after a preload, and adds that one under
the identity of the node. -/
theorem preloadSubgraph_shifts_entry :
    let ctx : Context Bench Bench.Runner Empty :=
      ⟨⟨0⟩, .global, Bench.scriptedFactory 0 .negate, defaultHost, defaultBackend, .global⟩
    let s : Symbol := ⟨"box", "spare"⟩
    let spare : Subgraph Node := ⟨⟨6⟩, ⟨[], [], []⟩⟩
    let g : Subgraph Node := ⟨⟨5⟩, ⟨[], [], []⟩⟩
    let n : Node := ⟨⟨"box", "fused"⟩, [], [], some g⟩
    let w : World Bench Bench.Runner := World.start ⟨0⟩ {}
    let w' := (ctx.preloadSubgraph s spare w).2
    let runner := fun (w : World Bench Bench.Runner) =>
      (((ctx.resolve n w).2.caches .global).get? (.identity g.id)).map Bench.Runner.id
    (∃ text, Symbol.parse text = .ok s) ∧ (∃ text, Symbol.parse text = .ok n.kind) ∧
      s ≠ n.kind ∧ (Key.identity g.id).bytes ≠ Utf8.encode s.qualified ∧
      runner w = some 0 ∧ runner w' = some 1 ∧
      ¬ ∀ j, j ≠ .name s.qualified → ((ctx.resolve n w').2.caches .global).get? j =
        ((ctx.resolve n w).2.caches .global).get? j := by
  intro ctx s spare g n w w' runner
  have hfirst : runner w = some 0 := by decide
  have hsecond : runner w' = some 1 := by decide
  refine ⟨⟨"box::spare", rfl⟩, ⟨"box::fused", rfl⟩, by decide, by decide, hfirst, hsecond, ?_⟩
  intro hall
  have hsame : runner w' = runner w := congrArg (Option.map Bench.Runner.id)
    (hall (.identity g.id) (by decide))
  rw [hfirst, hsecond] at hsame
  cases hsame

end Context

end Delegation
