import Delegation.Proofs.Interception.Restoration
import Delegation.Proofs.Process.Events
/-!
# The lifetime of a delegated operation

An operation is obtained for a node once and invoked as long as the host likes.  Meanwhile its
runner may be evicted from the cache or built anew, and the settings of its context may be replaced.
None of this reaches the operation: `obtained_frozen` says of every run of the process that each
invocation calls the runner that was resolved at first, through the entry point that the settings
of this runner ask for.  Only the switch stays shared.
-/

namespace Delegation

variable {σ ρ η : Type}

/-! ### Obtaining an operation -/

/-- An operation was obtained for a node, and left the shared state `w'`. -/
inductive Obtained (ctx : Context σ ρ η) (n : Node) (w : World σ ρ) :
    Operation ρ → World σ ρ → Prop where
  /-- The context was asked for it. -/
  | forNode {op : DelegatedOperation ρ} {w' : World σ ρ}
      (h : DelegatedOperation.forNode ctx n w = (.returned op, w')) :
      Obtained ctx n w (.delegated op) w'
  /-- An operator table was asked for it, in which the kind of the node is a delegated operator of
  the context. -/
  | created {t : OperatorTable σ ρ} {e : RegisteredOperator σ ρ} {o : Operation ρ} {w' : World σ ρ}
      (hlookup : t.lookup n.kind = some e)
      (hfactory : e.factory = OperatorTable.delegatedFactory ctx)
      (h : t.createOperation n w = (.returned o, w')) : Obtained ctx n w o w'

lemma Exit.map_eq_returned {ε α β : Type} {f : α → β} {x : Exit ε α} {b : β} :
    x.map f = .returned b ↔ ∃ a, x = .returned a ∧ f a = b := by
  cases x <;> simp [Exit.map]

lemma Exit.mapError_eq_returned {ε ε' α : Type} {f : ε → ε'} {x : Exit ε α} {a : α} :
    x.mapError f = .returned a ↔ x = .returned a := by
  cases x <;> simp [Exit.mapError]

lemma DelegatedOperation.forNode_eq_returned {ctx : Context σ ρ η} {n : Node} {w w' : World σ ρ}
    {op : DelegatedOperation ρ} :
    forNode ctx n w = (.returned op, w') ↔
      ∃ r, ctx.resolve n w = (.returned r, w') ∧ op = ⟨r, ctx.switch⟩ := by
  rw [forNode, Prod.mk.injEq, Exit.map_eq_returned]
  simp only [Exit.mapError_eq_returned, Prod.ext_iff]
  constructor
  · rintro ⟨⟨r, hr, rfl⟩, hw⟩
    exact ⟨r, ⟨hr, hw⟩, rfl⟩
  · rintro ⟨r, ⟨hr, hw⟩, rfl⟩
    exact ⟨⟨r, hr, rfl⟩, hw⟩

/-- However an operation was obtained, its runner was resolved then, and its switch is that of the
context. -/
lemma Obtained.resolved {ctx : Context σ ρ η} {n : Node} {w w' : World σ ρ} {o : Operation ρ}
    (h : Obtained ctx n w o w') :
    ∃ r, ctx.resolve n w = (.returned r, w') ∧ o = .delegated ⟨r, ctx.switch⟩ := by
  cases h with
  | forNode h =>
    obtain ⟨r, hr, rfl⟩ := DelegatedOperation.forNode_eq_returned.mp h
    exact ⟨r, hr, rfl⟩
  | created hlookup hfactory h =>
    simp only [OperatorTable.createOperation, hlookup, hfactory, OperatorTable.delegatedFactory,
      Prod.mk.injEq, Exit.map_eq_returned] at h
    obtain ⟨⟨op, hop, rfl⟩, hw⟩ := h
    obtain ⟨r, hr, rfl⟩ := DelegatedOperation.forNode_eq_returned.mp (Prod.ext hop hw)
    exact ⟨r, hr, rfl⟩

/-! ### Invoking it later -/

/-- The runner calls of an invocation. -/
def Operation.callsOfInvoke (engine : Engine σ ρ) (o : Operation ρ) (stack : Stack)
    (w : World σ ρ) : List (RunnerCall σ ρ) :=
  (o.invoke engine.recorded stack (w.mapOutside fun s => (s, []))).2.2.outside.2

/-- What stays of an operation with the runner `r` and the switch `s` after `events`, the first of
which happened in `w`. -/
structure Frozen (engine : Engine σ ρ) (s : SwitchId) (r : ρ) (o : Operation ρ)
    (events : List (Event σ ρ η)) (w : World σ ρ) : Prop where
  /-- An invocation calls the runner once, with the entry point for its settings, and puts the
  signals back to default handling exactly when the switch was last turned on. -/
  invoked : ∀ stack, ∃ call,
    o.callsOfInvoke engine stack (Event.performAll engine events w) = [call] ∧
    call.runner = r ∧ call.stack = stack ∧
    (call.entry = .runOnly ↔ (engine.settings r).preCompile = true) ∧
    call.world =
      if (Event.lastWrite? engine s events w).getD (w.switches s) = true then
        { Event.performAll engine events w with dispositions := {} }
      else Event.performAll engine events w
  /-- If a context built the runner in one of the events, then its settings are those that the
  context had at that moment. -/
  settings : ∀ before e after builder, events = before ++ e :: after → builder.Reports engine →
    e.Builds (Event.performAll engine before w) builder r →
    engine.settings r = builder.settings (Event.performAll engine before w)
  /-- A runner that touches only the stack is invoked without any effect on the shared state. -/
  untouched : (∀ entry stack w, (engine.execute r entry stack w).2.2 = w) →
    ∀ stack, (o.invoke engine stack (Event.performAll engine events w)).2.2 =
      Event.performAll engine events w

/-- An invocation of a runner that touches only the stack has no effect on the shared state: the
guard gives back what it took. -/
lemma DelegatedOperation.invoke_untouched {engine : Engine σ ρ} {op : DelegatedOperation ρ}
    (h : ∀ entry stack w, (engine.execute op.runner entry stack w).2.2 = w) (stack : Stack)
    (w : World σ ρ) : (op.invoke engine stack w).2.2 = w := by
  have hcall : (op.call engine stack w).worldAfter = w.shielded op.switch := h _ _ _
  have hdispositions : (op.invoke engine stack w).2.2.dispositions = w.dispositions :=
    dispositions_invoke engine stack w fun entry stack w => congrArg World.dispositions (h _ _ _)
  rw [invoke_with_dispositions, hcall, hdispositions]
  exact World.shielded_with_dispositions w op.switch

lemma Operation.frozen (engine : Engine σ ρ) (r : ρ) (s : SwitchId) (events : List (Event σ ρ η))
    (w : World σ ρ) : Frozen engine s r (.delegated ⟨r, s⟩) events w where
  invoked stack := by
    refine ⟨_, DelegatedOperation.callsOfInvoke_eq engine ⟨r, s⟩ stack _, rfl, rfl,
      (engine.settings r).entryPoint_eq_runOnly_iff, ?_⟩
    rw [← Event.switches_performAll]
    rfl
  settings before e after builder _ hreports hbuilds := Event.settings_of_builds hreports hbuilds
  untouched h stack := DelegatedOperation.invoke_untouched h stack _

/-- **Operations are frozen when they are obtained, except for their switch.**  The process runs
through the events `earlier`, an operation is obtained for a node, and the process runs through the
events `later`.  The operation then stands as `Frozen` says, with the runner that was resolved when
it was obtained; obtaining it counts as a resolution among the events. -/
theorem obtained_frozen (engine : Engine σ ρ) (w : World σ ρ) (earlier : List (Event σ ρ η))
    {ctx : Context σ ρ η} {n : Node} {o : Operation ρ} {w' : World σ ρ}
    (h : Obtained ctx n (Event.performAll engine earlier w) o w') :
    ∃ r, ctx.resolve n (Event.performAll engine earlier w) = (.returned r, w') ∧
      ∀ later : List (Event σ ρ η),
        Event.performAll engine (earlier ++ .use ctx.cache (.resolve ctx n) :: later) w =
          Event.performAll engine later w' ∧
        Frozen engine ctx.switch r o (earlier ++ .use ctx.cache (.resolve ctx n) :: later) w := by
  obtain ⟨r, hr, rfl⟩ := h.resolved
  refine ⟨r, hr, fun later => ⟨?_, Operation.frozen engine r ctx.switch _ w⟩⟩
  have hw' : (Event.use ctx.cache (.resolve ctx n)).perform engine
      (Event.performAll engine earlier w) = w' := congrArg Prod.snd hr
  rw [Event.performAll_append, Event.performAll_cons, hw']

/-- The runner of an operation is evicted and built anew under other settings.  Meanwhile another
context turns the switch of the operation on, and a foreign host turns the switch of the process
off. -/
theorem obtained_frozen_after_rebuild :
    let first : Settings := { preCompile := true, signalOverrides := false }
    let second : Settings := { preCompile := false, signalOverrides := false }
    let spec : Context.Spec Nat (Settings × Nat) Unit :=
      { factory := fun request s => (.returned (request.settings, s), s + 1)
        settings := first
        switch := ⟨1⟩ }
    let w : World Nat (Settings × Nat) := World.start ⟨0⟩ 0
    let ctx := (Context.make spec w).1
    let g : Subgraph Node := ⟨⟨5⟩, ⟨[], [], []⟩⟩
    let n : Node := ⟨⟨"box", "fused"⟩, [], [], some g⟩
    let engine : Engine Nat (Settings × Nat) :=
      ⟨Prod.fst, fun _ _ stack w => (.returned (), stack.push (.int 7), w)⟩
    let earlier : List (Event Nat (Settings × Nat) Unit) := [.make spec]
    let later : List (Event Nat (Settings × Nat) Unit) :=
      [.use .global (.remove (.identity g.id)), .use .global (.updateSettings ctx second),
        .use .global (.resolve ctx n), .make { spec with settings := {} },
        .foreign (.setOverrides false)]
    let events := earlier ++ .use .global (.resolve ctx n) :: later
    let o : Operation (Settings × Nat) := .delegated ⟨(first, 0), ⟨1⟩⟩
    (∃ w', Obtained ctx n (Event.performAll engine earlier w) o w') ∧
      ctx.Reports engine ∧
      (Event.use .global (.resolve ctx n)).Builds (Event.performAll engine earlier w) ctx
        (first, 0) ∧
      ((Event.performAll engine events w).caches .global).get? (.identity g.id) =
        some (second, 1) ∧
      Event.lastWrite? engine ⟨1⟩ events w = some true ∧
      Frozen engine ⟨1⟩ (first, 0) o events w := by
  intro first second spec w ctx g n engine earlier later events o
  have hobtained : Obtained ctx n (Event.performAll engine earlier w) o
      (ctx.resolve n (Event.performAll engine earlier w)).2 :=
    .created (t := ⟨[⟨n.kind, .pureFunction, OperatorTable.delegatedFactory ctx⟩]⟩) rfl rfl rfl
  obtain ⟨r, hr, hlater⟩ := obtained_frozen engine w earlier hobtained
  have hfirst : (ctx.resolve n (Event.performAll engine earlier w)).1 = .returned (first, 0) := rfl
  have hreports : ctx.Reports engine := by
    rintro request s r hreturned
    cases hreturned
    rfl
  have hbuilds : (Event.use .global (.resolve ctx n)).Builds (Event.performAll engine earlier w)
      ctx (first, 0) := Or.inl ⟨.global, n, g, rfl, rfl, rfl⟩
  have hrunner : r = (first, 0) := by
    rw [hr] at hfirst
    cases hfirst
    rfl
  subst hrunner
  exact ⟨⟨_, hobtained⟩, hreports, hbuilds, by decide, by decide, (hlater later).2⟩

end Delegation
