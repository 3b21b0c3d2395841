import Delegation.Foreign
import Delegation.Interception
import Delegation.Proofs.Resolution.Provenance
/-!
# What happens in a process

Contexts are made and used, caches are filled and emptied, switches are turned, operations are
invoked, and a foreign host calls in, in any order.  An `Event` is one of these, and `performAll` is
a run of them.

Few events reach a switch.  `Event.write?` says what an event writes to it, and
`switches_performAll` says that a switch is what was last written to it.  `Event.Builds` says that
in an event a context had a runner built; what the runner was built with is `settings_of_builds`.
-/

namespace Delegation

variable {σ ρ η : Type}

/-- A call of the surface for hosts that exchange bytes. -/
inductive Foreign.Call where
  /-- Ask for the number of runners. -/
  | cacheSize
  /-- Ask whether there is a runner under a key. -/
  | contains (buffer : Option (List UInt8)) (length : Nat)
  /-- Evict the runner under a key. -/
  | remove (buffer : Option (List UInt8)) (length : Nat)
  /-- Evict all runners. -/
  | clear
  /-- Evict the runner under a name. -/
  | removeName (buffer : Option (List UInt8))
  /-- Turn the switch of the process. -/
  | setOverrides (enabled : Bool)
  /-- Ask whether the switch of the process is on. -/
  | overridesEnabled
  /-- Ask for the version. -/
  | version

/-- The shared state after a foreign call; questions leave it as it is. -/
def Foreign.Call.perform : Foreign.Call → World σ ρ → World σ ρ
  | remove buffer length, w => (Foreign.remove buffer length w).2
  | clear, w => (Foreign.clear w).2
  | removeName buffer, w => (Foreign.removeName buffer w).2
  | setOverrides enabled, w => Foreign.setOverrides enabled w
  | cacheSize, w | contains _ _, w | overridesEnabled, w | version, w => w

/-- Something that happens in a process. -/
inductive Event (σ ρ η : Type) where
  /-- A cache is used: a node is resolved, a runner is preloaded, keys are removed, or the settings
  of a context are replaced. -/
  | use (c : CacheId) (u : Usage σ ρ η)
  /-- A runner is inserted under a key. -/
  | insert (c : CacheId) (k : Key) (build : σ → Exit RunError ρ × σ)
  /-- A context is made. -/
  | make (spec : Context.Spec σ ρ η)
  /-- A context builds a runner without its cache. -/
  | buildRunner (ctx : Context σ ρ η) (g : Subgraph Node)
  /-- A switch is turned, or comes into being turned on or off. -/
  | turn (s : SwitchId) (enabled : Bool)
  /-- A foreign host calls in. -/
  | foreign (call : Foreign.Call)
  /-- A delegated operation is invoked. -/
  | invoke (op : DelegatedOperation ρ) (stack : Stack)

namespace Event

/-- The shared state after an event. -/
def perform (engine : Engine σ ρ) : Event σ ρ η → World σ ρ → World σ ρ
  | use c u, w => u.perform c w
  | insert c k build, w => (w.getOrInsert c k build).2
  | make spec, w => (Context.make spec w).2
  | buildRunner ctx g, w => (ctx.buildRunner g w).2
  | turn s enabled, w => w.setSwitch s enabled
  | foreign call, w => call.perform w
  | invoke op stack, w => (op.invoke engine stack w).2.2

/-- The shared state after several events. -/
def performAll (engine : Engine σ ρ) (events : List (Event σ ρ η)) (w : World σ ρ) : World σ ρ :=
  events.foldl (fun w e => e.perform engine w) w

variable {engine : Engine σ ρ}

lemma performAll_cons (e : Event σ ρ η) (events : List (Event σ ρ η)) (w : World σ ρ) :
    performAll engine (e :: events) w = performAll engine events (e.perform engine w) := rfl

lemma performAll_append (before after : List (Event σ ρ η)) (w : World σ ρ) :
    performAll engine (before ++ after) w =
      performAll engine after (performAll engine before w) := by
  rw [performAll, performAll, performAll, List.foldl_append]

/-! ### Writes to a switch -/

/-- What is written to one switch is written to that switch alone. -/
def written (s : SwitchId) (enabled : Bool) (t : SwitchId) : Option Bool :=
  if t = s then some enabled else none

/-- What an event writes to a switch, if anything.  A runner that leaves a switch otherwise than it
found it has written to it. -/
def write? (engine : Engine σ ρ) (t : SwitchId) : Event σ ρ η → World σ ρ → Option Bool
  | use _ (.updateSettings ctx s), _ => written ctx.switch s.signalOverrides t
  | make spec, _ => written spec.switch spec.settings.signalOverrides t
  | turn s enabled, _ => written s enabled t
  | foreign (.setOverrides enabled), _ => written .global enabled t
  | invoke op stack, w =>
    let found := w.switches t
    let left := (op.invoke engine stack w).2.2.switches t
    if left = found then none else some left
  | _, _ => none

/-- What several events write to a switch last, if anything. -/
def lastWrite? (engine : Engine σ ρ) (t : SwitchId) : List (Event σ ρ η) → World σ ρ → Option Bool
  | [], _ => none
  | e :: events, w =>
    (lastWrite? engine t events (e.perform engine w)).or (e.write? engine t w)

lemma switches_setSwitch (w : World σ ρ) (s t : SwitchId) (enabled : Bool) :
    (w.setSwitch s enabled).switches t = (written s enabled t).getD (w.switches t) := by
  simp only [World.setSwitch, written]
  by_cases h : t = s
  · rw [h, setAt_self, if_pos rfl, Option.getD_some]
  · rw [setAt_of_ne _ _ h, if_neg h, Option.getD_none]

/-- A resolution touches nothing but its cache and the state of outside code. -/
lemma switches_resolve (ctx : Context σ ρ η) (n : Node) (w : World σ ρ) :
    (ctx.resolve n w).2.switches = w.switches := by
  rw [Context.resolve]
  split
  · rfl
  · split
    · rfl
    · split
      · rfl
      · rfl

/-- **One event**: a switch is what the event writes to it, or what it was. -/
lemma switches_perform (e : Event σ ρ η) (t : SwitchId) (w : World σ ρ) :
    (e.perform engine w).switches t = (e.write? engine t w).getD (w.switches t) := by
  cases e with
  | use c u =>
    cases u with
    | resolve ctx n => exact congrFun (switches_resolve ctx n w) t
    | updateSettings ctx s => exact switches_setSwitch w ctx.switch t s.signalOverrides
    | _ => rfl
  | insert c k build => rfl
  | make spec => exact switches_setSwitch _ spec.switch t spec.settings.signalOverrides
  | buildRunner ctx g => rfl
  | turn s enabled => exact switches_setSwitch w s t enabled
  | foreign call =>
    cases call with
    | setOverrides enabled => exact switches_setSwitch w .global t enabled
    | remove buffer length =>
      simp only [perform, Foreign.Call.perform, Foreign.remove, write?]
      split <;> rfl
    | removeName buffer =>
      simp only [perform, Foreign.Call.perform, Foreign.removeName, write?]
      split <;> rfl
    | _ => rfl
  | invoke op stack =>
    simp only [perform, write?]
    split
    · assumption
    · rfl

/-- **A switch is what was last written to it**, or what it was at first. -/
lemma switches_performAll (events : List (Event σ ρ η)) (t : SwitchId) (w : World σ ρ) :
    (performAll engine events w).switches t =
      (lastWrite? engine t events w).getD (w.switches t) := by
  induction events generalizing w with
  | nil => rfl
  | cons e events ih =>
    rw [performAll_cons, ih, switches_perform, lastWrite?]
    cases lastWrite? engine t events (e.perform engine w) with
    | none => rfl
    | some enabled => rfl

/-! ### Runners that are built -/

/-- In an event a context calls its compiler, once, and the compiler returns the runner. -/
def Builds (e : Event σ ρ η) (w : World σ ρ) (ctx : Context σ ρ η) (r : ρ) : Prop :=
  (∃ c n g, e = use c (.resolve ctx n) ∧ n.subgraph = some g ∧
    ctx.callsOfResolve n w = [⟨ctx.request w g, .returned r⟩]) ∨
  (∃ c symbol g, e = use c (.preloadSubgraph ctx symbol g) ∧
    w.builderCalls ctx.cache (.name symbol.qualified) (ctx.factory (ctx.request w g)) = 1 ∧
    (ctx.factory (ctx.request w g) w.outside).1 = .returned r) ∨
  ∃ g, e = buildRunner ctx g ∧ (ctx.buildRunner g w).1 = .returned r

end Event

/-- Runners of a context report the settings with which they were built. -/
def Context.Reports (engine : Engine σ ρ) (ctx : Context σ ρ η) : Prop :=
  ∀ request s r, (ctx.factory request s).1 = .returned r → engine.settings r = request.settings

/-- What a resolution notes down about a call of its compiler is how the compiler ended. -/
lemma Context.exit_of_mem_callsOfResolve {ctx : Context σ ρ η} {n : Node} {w : World σ ρ}
    {call : FactoryCall ρ η} (h : call ∈ ctx.callsOfResolve n w) :
    call.exit = (ctx.factory call.request w.outside).1 := by
  by_cases hit : ∀ g, n.subgraph = some g →
      (∃ r, ctx.lookupIdentity g w = some r) ∨ ∃ r, ctx.lookupName n.kind w = some r
  · rw [callsOfResolve_of_hit hit] at h
    cases h
  · -- Neither key has an entry, and the one call is that of the last tier.
    simp only [not_forall, not_or, not_exists, ← Option.eq_none_iff_forall_ne_some] at hit
    obtain ⟨g, hg, hidentity, hname⟩ := hit
    rw [callsOfResolve_of_absent hg hidentity hname, List.mem_singleton] at h
    rw [h, buildIdentity, World.getOrInsert_fst_of_none hidentity]

namespace Event

/-- **A runner keeps the settings of its context** as they were when it was built. -/
lemma settings_of_builds {engine : Engine σ ρ} {ctx : Context σ ρ η} (hreports : ctx.Reports engine)
    {e : Event σ ρ η} {w : World σ ρ} {r : ρ} (h : e.Builds w ctx r) :
    engine.settings r = ctx.settings w := by
  obtain ⟨c, n, g, -, -, hcalls⟩ | ⟨c, symbol, g, -, -, hreturned⟩ | ⟨g, -, hreturned⟩ := h
  · have hmem : (⟨ctx.request w g, .returned r⟩ : FactoryCall ρ η) ∈ ctx.callsOfResolve n w := by
      rw [hcalls]
      exact List.mem_singleton_self _
    exact hreports _ _ _ (Context.exit_of_mem_callsOfResolve hmem).symm
  · exact hreports _ _ _ hreturned
  · exact hreports _ _ _ hreturned

end Event

end Delegation
