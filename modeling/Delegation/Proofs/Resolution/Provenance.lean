import Delegation.Proofs.Key.Injectivity
import Delegation.Proofs.Resolution.Calls
import Mathlib.Data.List.Induction
/-!
# Where the runners of a cache come from

Several contexts use one cache: they resolve nodes, preload runners and change their settings, and
keys are removed in between.  `Origin` says what a single use must have been for a runner to be in
the cache afterwards that was not there before, and `exists_origin` finds that use for every entry
of a cache that was empty at first.

The main statement, `performAll_provenance`, reads the two kinds of keys off the origin.  What stands
under the identity of a subgraph was built for exactly this subgraph, with what the resolving
context had at that moment, and everything else was preloaded under its name.
-/

namespace Delegation

variable {σ ρ η : Type}

/-! ### Uses of a cache -/

/-- A use of a cache. -/
inductive Usage (σ ρ η : Type) where
  /-- A context resolves a node. -/
  | resolve (ctx : Context σ ρ η) (n : Node)
  /-- A context preloads a runner. -/
  | preload (ctx : Context σ ρ η) (symbol : Symbol) (build : σ → Exit RunError ρ × σ)
  /-- A context preloads a runner for a representative subgraph. -/
  | preloadSubgraph (ctx : Context σ ρ η) (symbol : Symbol) (g : Subgraph Node)
  /-- The settings of a context are replaced. -/
  | updateSettings (ctx : Context σ ρ η) (s : Settings)
  /-- A key is removed. -/
  | remove (k : Key)
  /-- All keys are removed. -/
  | clear

namespace Usage

/-- The shared state after a use of a cache. -/
def perform (c : CacheId) : Usage σ ρ η → World σ ρ → World σ ρ
  | resolve ctx n, w => (ctx.resolve n w).2
  | preload ctx symbol build, w => (ctx.preload symbol build w).2
  | preloadSubgraph ctx symbol g, w => (ctx.preloadSubgraph symbol g w).2
  | updateSettings ctx s, w => ctx.updateSettings s w
  | remove k, w => (w.removeKey c k).2
  | clear, w => (w.clearCache c).2

/-- The shared state after several uses of a cache. -/
def performAll (c : CacheId) (uses : List (Usage σ ρ η)) (w : World σ ρ) : World σ ρ :=
  uses.foldl (fun w u => u.perform c w) w

/-- The context that is at work. -/
def context? : Usage σ ρ η → Option (Context σ ρ η)
  | resolve ctx _ | preload ctx _ _ | preloadSubgraph ctx _ _ | updateSettings ctx _ => some ctx
  | remove _ | clear => none

/-- The subgraph that is resolved. -/
def resolved? : Usage σ ρ η → Option (Subgraph Node)
  | resolve _ n => n.subgraph
  | _ => none

/-- The symbol that is preloaded. -/
def preloaded? : Usage σ ρ η → Option Symbol
  | preload _ symbol _ | preloadSubgraph _ symbol _ => some symbol
  | _ => none

/-- The builder of a preload. -/
def builder? (w : World σ ρ) : Usage σ ρ η → Option (σ → Exit RunError ρ × σ)
  | preload _ _ build => some build
  | preloadSubgraph ctx _ g => some (ctx.factory (ctx.request w g))
  | _ => none

lemma performAll_concat (c : CacheId) (uses : List (Usage σ ρ η)) (u : Usage σ ρ η)
    (w : World σ ρ) :
    performAll c (uses ++ [u]) w = u.perform c (performAll c uses w) := by
  rw [performAll, List.foldl_append]
  rfl

/-! ### The origin of an entry -/

/-- A runner was built for a subgraph: a context resolved a node that holds the subgraph, and its
one compiler call, for this subgraph, returned the runner. -/
def BuiltFor (u : Usage σ ρ η) (w : World σ ρ) (g : Subgraph Node) (r : ρ) : Prop :=
  ∃ ctx n, u = .resolve ctx n ∧ n.subgraph = some g ∧
    ctx.callsOfResolve n w = [⟨⟨g, ctx.host, ctx.backend, ctx.settings w⟩, .returned r⟩]

/-- A runner was preloaded for a symbol: the builder of the preload was called once and returned the
runner. -/
def PreloadedAs (c : CacheId) (u : Usage σ ρ η) (w : World σ ρ) (symbol : Symbol) (r : ρ) : Prop :=
  ∃ build, u.preloaded? = some symbol ∧ u.builder? w = some build ∧
    w.builderCalls c (.name symbol.qualified) build = 1 ∧ (build w.outside).1 = .returned r

/-- What brought a runner under a key. -/
inductive Origin (c : CacheId) (u : Usage σ ρ η) (w : World σ ρ) : Key → ρ → Prop where
  /-- The runner was built for a subgraph. -/
  | built {g : Subgraph Node} {r : ρ} (h : u.BuiltFor w g r) : Origin c u w (.identity g.id) r
  /-- The runner was preloaded. -/
  | preloaded {symbol : Symbol} {r : ρ} (h : u.PreloadedAs c w symbol r) :
    Origin c u w (.name symbol.qualified) r

variable {c : CacheId} {w : World σ ρ} {k : Key} {r : ρ}

lemma origin_resolve {ctx : Context σ ρ η} {n : Node} (hcache : ctx.cache = c)
    (h : (((resolve ctx n).perform c w).caches c).get? k = some r) :
    (w.caches c).get? k = some r ∨ Origin c (resolve ctx n) w k r := by
  simp only [perform] at h
  cases hn : n.subgraph with
  | none =>
    rw [Context.resolve_of_missing hn] at h
    exact Or.inl h
  | some g =>
    cases hg : ctx.lookupIdentity g w with
    | some r' =>
      rw [Context.resolve_of_identity hn hg] at h
      exact Or.inl h
    | none =>
      cases hk : ctx.lookupName n.kind w with
      | some r' =>
        rw [Context.resolve_of_name hn hg hk] at h
        exact Or.inl h
      | none =>
        rw [Context.resolve_of_absent hn hg hk, Context.buildIdentity, ← hcache,
          World.get?_getOrInsert] at h
        rcases h with h | ⟨rfl, hnone, hr⟩
        · rw [← hcache]
          exact Or.inl h
        · have hexit : (ctx.buildIdentity g w).1 = .returned r := by
            rw [Context.buildIdentity, World.getOrInsert_fst_of_none hnone, hr]
          refine Or.inr (.built ⟨ctx, n, rfl, hn, ?_⟩)
          rw [Context.callsOfResolve_of_absent hn hg hk, hexit]
          rfl

/-- What both kinds of preloads have in common. -/
lemma origin_preload {u : Usage σ ρ η} {symbol : Symbol} {build : σ → Exit RunError ρ × σ}
    (hsymbol : u.preloaded? = some symbol) (hbuild : u.builder? w = some build)
    (h : ((w.getOrInsert c (.name symbol.qualified) build).2.caches c).get? k = some r) :
    (w.caches c).get? k = some r ∨ Origin c u w k r := by
  rw [World.get?_getOrInsert] at h
  rcases h with h | ⟨rfl, hnone, hr⟩
  · exact Or.inl h
  · exact Or.inr (.preloaded ⟨build, hsymbol, hbuild, World.builderCalls_of_none hnone build, hr⟩)

/-- **One use of a cache** leaves every entry it does not account for as it was. -/
lemma origin_perform (u : Usage σ ρ η) (hshared : ∀ ctx, u.context? = some ctx → ctx.cache = c)
    (h : ((u.perform c w).caches c).get? k = some r) :
    (w.caches c).get? k = some r ∨ Origin c u w k r := by
  cases u with
  | resolve ctx n => exact origin_resolve (hshared ctx rfl) h
  | preload ctx symbol build =>
    have hcache := hshared ctx rfl
    simp only [perform, Context.preload, hcache] at h
    exact origin_preload rfl rfl h
  | preloadSubgraph ctx symbol g =>
    have hcache := hshared ctx rfl
    simp only [perform, Context.preloadSubgraph, Context.preload, hcache] at h
    exact origin_preload rfl rfl h
  | updateSettings ctx s => exact Or.inl h
  | remove j =>
    simp only [perform, World.removeKey, World.setCache_caches, Cache.get?_erase] at h
    split at h
    · cases h
    · exact Or.inl h
  | clear =>
    simp only [perform, World.clearCache, World.setCache_caches, Cache.get?_empty] at h
    cases h

/-- Every entry of a cache that was empty at first has an origin among the uses of the cache. -/
lemma exists_origin (hempty : w.caches c = .empty) (uses : List (Usage σ ρ η))
    (hshared : ∀ u ∈ uses, ∀ ctx, u.context? = some ctx → ctx.cache = c)
    (h : ((performAll c uses w).caches c).get? k = some r) :
    ∃ before u after, uses = before ++ u :: after ∧
      Origin c u (performAll c before w) k r := by
  induction uses using List.reverseRecOn with
  | nil =>
    have hnone : (w.caches c).get? k = none := by rw [hempty, Cache.get?_empty]
    exact absurd (hnone.symm.trans h) (by simp)
  | append_singleton uses u ih =>
    rw [performAll_concat] at h
    -- Either the last use accounts for the entry, or it was there before and is accounted for.
    rcases origin_perform u (hshared u (by simp)) h with hold | hnew
    · have hshared' : ∀ u ∈ uses, ∀ ctx, u.context? = some ctx → ctx.cache = c :=
        fun u hu => hshared u (by simp [hu])
      obtain ⟨before, u', after, rfl, horigin⟩ := ih hshared' hold
      exact ⟨before, u', after ++ [u], by simp, horigin⟩
    · exact ⟨uses, u, [], rfl, hnew⟩

/-! ### Reading the keys off the origin -/

/-- **Runners belong to the subgraph they are found for.**  Contexts use a cache that was empty at
first, in any way and as long as they like.

A runner under the identity of a subgraph `g` was built for `g`, provided that no resolved subgraph
shares the identity with `g` and that no preloaded symbol is written with the bytes of that
identity.  A runner under a key that is not the identity of a resolved subgraph was preloaded as the
symbol that is written with the bytes of this key. -/
theorem performAll_provenance (c : CacheId) {w : World σ ρ} (hempty : w.caches c = .empty)
    (uses : List (Usage σ ρ η))
    (hshared : ∀ u ∈ uses, ∀ ctx, u.context? = some ctx → ctx.cache = c) :
    (∀ g r,
      (∀ u ∈ uses, ∀ g', u.resolved? = some g' → g'.id = g.id → g' = g) →
      (∀ u ∈ uses, ∀ symbol, u.preloaded? = some symbol →
        (Key.identity g.id).bytes ≠ Utf8.encode symbol.qualified) →
      ((performAll c uses w).caches c).get? (.identity g.id) = some r →
      ∃ before u after, uses = before ++ u :: after ∧ u.BuiltFor (performAll c before w) g r) ∧
    (∀ k r,
      (∀ u ∈ uses, ∀ g, u.resolved? = some g → k ≠ .identity g.id) →
      ((performAll c uses w).caches c).get? k = some r →
      ∃ before u after symbol, uses = before ++ u :: after ∧
        k.bytes = Utf8.encode symbol.qualified ∧
        u.PreloadedAs c (performAll c before w) symbol r) := by
  constructor
  · intro g r hdistinct hnames h
    obtain ⟨before, u, after, heq, horigin⟩ := exists_origin hempty uses hshared h
    have hu : u ∈ uses := by simp [heq]
    refine ⟨before, u, after, heq, ?_⟩
    -- The key alone does not tell its origin: a name may be written with the same eight bytes.
    generalize hk : Key.identity g.id = k at horigin
    cases horigin with
    | @built g' r hbuilt =>
      obtain ⟨ctx, n, rfl, hn, -⟩ := id hbuilt
      have hid : g'.id = g.id := Key.identity_injective hk.symm
      rw [← hdistinct _ hu g' hn hid]
      exact hbuilt
    | @preloaded symbol r hpreloaded =>
      obtain ⟨build, hsymbol, -⟩ := hpreloaded
      exact absurd (Key.identity_eq_name_iff.mp hk) (hnames u hu symbol hsymbol)
  · intro k r hresolved h
    obtain ⟨before, u, after, heq, horigin⟩ := exists_origin hempty uses hshared h
    have hu : u ∈ uses := by simp [heq]
    cases horigin with
    | @built g r hbuilt =>
      obtain ⟨ctx, n, rfl, hn, -⟩ := hbuilt
      exact absurd rfl (hresolved _ hu g hn)
    | @preloaded symbol r hpreloaded =>
      exact ⟨before, u, after, symbol, heq, rfl, hpreloaded⟩

/-- Two contexts share a cache.  The first one builds a runner, loses it by a removal and builds
another one under new settings, after the second one has preloaded a runner. -/
theorem provenance_after_rebuild :
    let g : Subgraph Node := ⟨⟨5⟩, ⟨[], [], []⟩⟩
    let n : Node := ⟨⟨"box", "fused"⟩, [], [], some g⟩
    let relu : Symbol := ⟨"aten", "relu"⟩
    let first : Context Nat Nat Unit :=
      ⟨⟨0⟩, .global, fun _ s => (.returned s, s + 1), defaultHost, defaultBackend, .global⟩
    let second : Context Nat Nat Unit := { first with id := ⟨1⟩ }
    let uses : List (Usage Nat Nat Unit) :=
      [.resolve first n, .updateSettings first { preCompile := true }, .remove (.identity g.id),
        .preload second relu fun s => (.returned s, s + 1), .resolve first n]
    let w : World Nat Nat := World.start ⟨0⟩ 0
    ((performAll .global uses w).caches .global).get? (.identity g.id) = some 2 ∧
      ((performAll .global uses w).caches .global).get? (.name relu.qualified) = some 1 ∧
      (∃ before u after, uses = before ++ u :: after ∧
        u.BuiltFor (performAll .global before w) g 2) ∧
      ∃ before u after symbol, uses = before ++ u :: after ∧
        (Key.name relu.qualified).bytes = Utf8.encode symbol.qualified ∧
        u.PreloadedAs .global (performAll .global before w) symbol 1 := by
  intro g n relu first second uses w
  have hbuilt : ((performAll .global uses w).caches .global).get? (.identity g.id) = some 2 := by
    decide
  have hpreloaded :
      ((performAll .global uses w).caches .global).get? (.name relu.qualified) = some 1 := by
    decide
  have hshared : ∀ u ∈ uses, ∀ ctx, u.context? = some ctx → ctx.cache = .global := by
    simp [uses, context?, first, second]
  have hresolved : ∀ u ∈ uses, ∀ g', u.resolved? = some g' → g' = g := by
    simp [uses, resolved?, n, eq_comm]
  have hsymbols : ∀ u ∈ uses, ∀ symbol, u.preloaded? = some symbol → symbol = relu := by
    simp [uses, preloaded?, eq_comm]
  have hbytes : (Key.identity g.id).bytes ≠ Utf8.encode relu.qualified := by decide
  refine ⟨hbuilt, hpreloaded, ?_, ?_⟩
  · refine (performAll_provenance .global rfl uses hshared).1 g 2 ?_ ?_ hbuilt
    · intro u hu g' hg' _
      exact hresolved u hu g' hg'
    · intro u hu symbol hsymbol
      rw [hsymbols u hu symbol hsymbol]
      exact hbytes
  · refine (performAll_provenance .global rfl uses hshared).2 _ 1 ?_ hpreloaded
    intro u hu g' hg' hk
    rw [hresolved u hu g' hg'] at hk
    exact hbytes (Key.identity_eq_name_iff.mp hk.symm)

end Usage

end Delegation
