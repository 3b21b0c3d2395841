import Delegation.Resolution
import Delegation.Proofs.Cache.Operations
/-!
# The compiler calls of a resolution

Which calls of the compiler a resolution makes is measured from outside: the compiler of the
context is given a list to which it adds each call, with what it was asked and how it ended
(`Context.recorded`), and `Context.callsOfResolve` reads the list.  That the context otherwise
behaves as before is `Context.resolve_recorded`.

The equations in the second section say how a resolution goes in each of its four cases.  Later
files use them and do not open `resolve`.
-/

namespace Delegation

variable {σ ρ η : Type}

/-! ### Compilers that note down their calls -/

/-- A call of the compiler. -/
structure FactoryCall (ρ η : Type) where
  /-- What the compiler was asked. -/
  request : BuildRequest η
  /-- How the call ended. -/
  exit : Exit RunError ρ

/-- A compiler that notes down its calls. -/
def Factory.recorded (f : Factory σ ρ η) : Factory (σ × List (FactoryCall ρ η)) ρ η :=
  fun request s =>
    let r := f request s.1
    (r.1, r.2, s.2 ++ [⟨request, r.1⟩])

/-- The shared state without the list of calls. -/
def World.unrecorded (w : World (σ × List (FactoryCall ρ η)) ρ) : World σ ρ :=
  ⟨w.caches, w.switches, w.settings, w.contexts, w.dispositions, w.blocks, w.outside.1⟩

/-- The shared state with an empty list of calls. -/
def World.recording (w : World σ ρ) : World (σ × List (FactoryCall ρ η)) ρ :=
  ⟨w.caches, w.switches, w.settings, w.contexts, w.dispositions, w.blocks, (w.outside, [])⟩

namespace Context

/-- A context whose compiler notes down its calls. -/
def recorded (ctx : Context σ ρ η) : Context (σ × List (FactoryCall ρ η)) ρ η :=
  ⟨ctx.id, ctx.cache, ctx.factory.recorded, ctx.host, ctx.backend, ctx.switch⟩

/-- The compiler calls of the last tier of a resolution. -/
def callsOfBuild (ctx : Context σ ρ η) (g : Subgraph Node) (w : World σ ρ) :
    List (FactoryCall ρ η) :=
  (ctx.recorded.buildIdentity g w.recording).2.outside.2

/-- The compiler calls of a resolution. -/
def callsOfResolve (ctx : Context σ ρ η) (n : Node) (w : World σ ρ) : List (FactoryCall ρ η) :=
  (ctx.recorded.resolve n w.recording).2.outside.2

/-! ### The four cases of a resolution -/

variable {ctx : Context σ ρ η} {g : Subgraph Node} {n : Node} {w : World σ ρ} {r : ρ}

lemma buildIdentity_of_some (h : ctx.lookupIdentity g w = some r) :
    ctx.buildIdentity g w = (.returned r, w) :=
  World.getOrInsert_of_some h _

lemma callsOfBuild_of_some (h : ctx.lookupIdentity g w = some r) : ctx.callsOfBuild g w = [] := by
  have hrecorded : ctx.recorded.lookupIdentity g w.recording = some r := h
  rw [callsOfBuild, buildIdentity_of_some hrecorded]
  rfl

/-- Without an entry the compiler is called once, for the subgraph and with what the context has at
that moment, and its end is the end of the tier. -/
lemma callsOfBuild_of_none (h : ctx.lookupIdentity g w = none) :
    ctx.callsOfBuild g w = [⟨ctx.request w g, (ctx.buildIdentity g w).1⟩] := by
  have hrecorded : ctx.recorded.lookupIdentity g w.recording = none := h
  have hexit : (ctx.buildIdentity g w).1 = (ctx.factory (ctx.request w g) w.outside).1 :=
    World.getOrInsert_fst_of_none h _
  rw [callsOfBuild, buildIdentity, World.getOrInsert_outside_of_none hrecorded, hexit]
  rfl

/-- A runner that the last tier returns is under the identity afterwards. -/
lemma lookupIdentity_buildIdentity (h : (ctx.buildIdentity g w).1 = .returned r) :
    ctx.lookupIdentity g (ctx.buildIdentity g w).2 = some r := by
  cases hg : ctx.lookupIdentity g w with
  | some r' =>
    rw [buildIdentity_of_some hg] at h ⊢
    cases h
    exact hg
  | none =>
    rw [buildIdentity, World.getOrInsert_fst_of_none hg] at h
    exact (World.get?_getOrInsert _ _ _ _ _ _).mpr (Or.inr ⟨rfl, hg, h⟩)

lemma resolve_of_missing (h : n.subgraph = none) :
    ctx.resolve n w = (.failed (.missingSubgraph n.kind), w) := by
  simp only [resolve, h]

lemma resolve_of_identity (h : n.subgraph = some g) (hg : ctx.lookupIdentity g w = some r) :
    ctx.resolve n w = (.returned r, w) := by
  simp only [resolve, h, hg]

lemma resolve_of_name (h : n.subgraph = some g) (hg : ctx.lookupIdentity g w = none)
    (hk : ctx.lookupName n.kind w = some r) : ctx.resolve n w = (.returned r, w) := by
  simp only [resolve, h, hg, hk]

lemma resolve_of_absent (h : n.subgraph = some g) (hg : ctx.lookupIdentity g w = none)
    (hk : ctx.lookupName n.kind w = none) : ctx.resolve n w = ctx.buildIdentity g w := by
  simp only [resolve, h, hg, hk]

/-- With a missing subgraph and on any hit no compiler is called. -/
lemma callsOfResolve_of_hit
    (h : ∀ g, n.subgraph = some g →
      (∃ r, ctx.lookupIdentity g w = some r) ∨ ∃ r, ctx.lookupName n.kind w = some r) :
    ctx.callsOfResolve n w = [] := by
  rw [callsOfResolve]
  cases hn : n.subgraph with
  | none =>
    rw [resolve_of_missing hn]
    rfl
  | some g =>
    have hit := h g hn
    cases hg : ctx.lookupIdentity g w with
    | some r =>
      have hrecorded : ctx.recorded.lookupIdentity g w.recording = some r := hg
      rw [resolve_of_identity hn hrecorded]
      rfl
    | none =>
      have hrecorded : ctx.recorded.lookupIdentity g w.recording = none := hg
      rcases hit with ⟨r, hr⟩ | ⟨r, hr⟩
      · rw [hg] at hr
        cases hr
      · have hname : ctx.recorded.lookupName n.kind w.recording = some r := hr
        rw [resolve_of_name hn hrecorded hname]
        rfl

/-- On a miss of both keys the compiler is called once, as in the last tier. -/
lemma callsOfResolve_of_absent (h : n.subgraph = some g) (hg : ctx.lookupIdentity g w = none)
    (hk : ctx.lookupName n.kind w = none) :
    ctx.callsOfResolve n w = [⟨ctx.request w g, (ctx.buildIdentity g w).1⟩] := by
  have hg' : ctx.recorded.lookupIdentity g w.recording = none := hg
  have hk' : ctx.recorded.lookupName n.kind w.recording = none := hk
  rw [callsOfResolve, resolve_of_absent h hg' hk', ← callsOfBuild_of_none hg]
  rfl

/-! ### Noting down changes nothing else -/

lemma buildIdentity_recorded (ctx : Context σ ρ η) (g : Subgraph Node)
    (w : World (σ × List (FactoryCall ρ η)) ρ) :
    (ctx.recorded.buildIdentity g w).1 = (ctx.buildIdentity g w.unrecorded).1 ∧
      (ctx.recorded.buildIdentity g w).2.unrecorded = (ctx.buildIdentity g w.unrecorded).2 := by
  cases hg : ctx.lookupIdentity g w.unrecorded with
  | some r =>
    have hrecorded : ctx.recorded.lookupIdentity g w = some r := hg
    rw [buildIdentity_of_some hg, buildIdentity_of_some hrecorded]
    exact ⟨rfl, rfl⟩
  | none =>
    have hrecorded : ctx.recorded.lookupIdentity g w = none := hg
    -- The two compilers end alike, so that both insertions add the same runner or none.
    rcases (ctx.factory (ctx.request w.unrecorded g) w.unrecorded.outside).1.returned_or_not
      with ⟨r, hr⟩ | hnot
    · have hnoted : (ctx.recorded.factory (ctx.recorded.request w g) w.outside).1 = .returned r :=
        hr
      rw [buildIdentity, buildIdentity, World.getOrInsert_of_returned hg (Prod.ext hr rfl),
        World.getOrInsert_of_returned hrecorded (Prod.ext hnoted rfl)]
      exact ⟨rfl, rfl⟩
    · have hnoted : ∀ r,
          (ctx.recorded.factory (ctx.recorded.request w g) w.outside).1 ≠ .returned r := hnot
      rw [buildIdentity, buildIdentity, World.getOrInsert_of_not_returned hg hnot,
        World.getOrInsert_of_not_returned hrecorded hnoted]
      exact ⟨rfl, rfl⟩

/-- A context whose compiler notes down its calls resolves as the context itself does. -/
lemma resolve_recorded (ctx : Context σ ρ η) (n : Node) (w : World (σ × List (FactoryCall ρ η)) ρ) :
    (ctx.recorded.resolve n w).1 = (ctx.resolve n w.unrecorded).1 ∧
      (ctx.recorded.resolve n w).2.unrecorded = (ctx.resolve n w.unrecorded).2 := by
  cases hn : n.subgraph with
  | none =>
    rw [resolve_of_missing hn, resolve_of_missing hn]
    exact ⟨rfl, rfl⟩
  | some g =>
    cases hg : ctx.lookupIdentity g w.unrecorded with
    | some r =>
      have hrecorded : ctx.recorded.lookupIdentity g w = some r := hg
      rw [resolve_of_identity hn hg, resolve_of_identity hn hrecorded]
      exact ⟨rfl, rfl⟩
    | none =>
      have hrecorded : ctx.recorded.lookupIdentity g w = none := hg
      cases hk : ctx.lookupName n.kind w.unrecorded with
      | some r =>
        have hname : ctx.recorded.lookupName n.kind w = some r := hk
        rw [resolve_of_name hn hg hk, resolve_of_name hn hrecorded hname]
        exact ⟨rfl, rfl⟩
      | none =>
        have hname : ctx.recorded.lookupName n.kind w = none := hk
        rw [resolve_of_absent hn hg hk, resolve_of_absent hn hrecorded hname]
        exact buildIdentity_recorded ctx g w

end Context

end Delegation
