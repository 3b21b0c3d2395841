import Delegation.Proofs.Host.Installation
import Delegation.Proofs.Interception.Calls
/-!
# What a failed installation leaves behind

A failed installation leaves the tables, the caches and the settings of all contexts as they were.
But it makes its context before it knows that its symbol is free, and making a context turns the
switch.  So an installation whose symbol is taken leaves the switch as its own settings want it, also
if other contexts share the switch (`Installation.failure_leaves`), and then operations that were
there before are invoked under other dispositions (`Installation.taken_turns_switch`).

That nothing else can be noticed is said with `World.AlikeBelow`: the shared states may differ in the
number of contexts and in the settings of contexts that nobody has.
-/

namespace Delegation

variable {σ ρ η : Type}

/-- An invocation calls its runner under the same dispositions, if these and its switch are the
same. -/
lemma World.dispositions_shielded {w w' : World σ ρ} {s : SwitchId}
    (hswitch : w'.switches s = w.switches s) (hdispositions : w'.dispositions = w.dispositions) :
    (w'.shielded s).dispositions = (w.shielded s).dispositions := by
  cases hon : w.switches s with
  | true => rw [shielded_of_on hon, shielded_of_on (hswitch.trans hon)]
  | false => rw [shielded_of_off hon, shielded_of_off (hswitch.trans hon), hdispositions]

/-! ### Shared states that are alike -/

/-- Shared states that differ at most in what concerns contexts from the number `n` on. -/
structure World.AlikeBelow (n : Nat) (w w' : World σ ρ) : Prop where
  /-- The caches are the same. -/
  caches : w'.caches = w.caches
  /-- The switches are the same. -/
  switches : w'.switches = w.switches
  /-- The settings of the first contexts are the same. -/
  settings : ∀ id : ContextId, id.number < n → w'.settings id = w.settings id
  /-- The dispositions are the same. -/
  dispositions : w'.dispositions = w.dispositions
  /-- The identities for new blocks are the same. -/
  blocks : w'.blocks = w.blocks
  /-- The state of outside code is the same. -/
  outside : w'.outside = w.outside

namespace World.AlikeBelow

variable {n : Nat} {w w' : World σ ρ}

protected lemma refl (n : Nat) (w : World σ ρ) : w.AlikeBelow n w :=
  ⟨rfl, rfl, fun _ _ => rfl, rfl, rfl, rfl⟩

lemma with_dispositions (h : w.AlikeBelow n w') (d : Dispositions) :
    World.AlikeBelow n { w with dispositions := d } { w' with dispositions := d } :=
  ⟨h.caches, h.switches, h.settings, rfl, h.blocks, h.outside⟩

lemma shielded (h : w.AlikeBelow n w') (s : SwitchId) :
    (w.shielded s).AlikeBelow n (w'.shielded s) := by
  have hsame : w'.switches s = w.switches s := congrFun h.switches s
  cases hon : w.switches s with
  | true =>
    rw [World.shielded_of_on hon, World.shielded_of_on (hsame.trans hon)]
    exact h.with_dispositions {}
  | false =>
    rw [World.shielded_of_off hon, World.shielded_of_off (hsame.trans hon)]
    exact h

lemma acquire_fst (h : w.AlikeBelow n w') (s : SwitchId) : (w'.acquire s).1 = (w.acquire s).1 := by
  rw [World.acquire, World.acquire, h.switches, h.dispositions]
  split <;> rfl

lemma release (h : w.AlikeBelow n w') (held : Option Guard) :
    (w.release held).AlikeBelow n (w'.release held) := by
  cases held with
  | none => exact h
  | some g =>
    rw [World.release, World.release, h.dispositions]
    exact h.with_dispositions _

end World.AlikeBelow

/-- Calls that end in the same way and leave the same stack and alike states. -/
structure AlikeEnds {ε : Type} (n : Nat) (a b : Exit ε Unit × Stack × World σ ρ) : Prop where
  /-- They end in the same way. -/
  exit : b.1 = a.1
  /-- They leave the same stack. -/
  stack : b.2.1 = a.2.1
  /-- They leave alike states. -/
  world : a.2.2.AlikeBelow n b.2.2

/-- The runners know the first `n` contexts only. -/
def Engine.KnowsBelow (engine : Engine σ ρ) (n : Nat) : Prop :=
  ∀ r entry stack w w', w.AlikeBelow n w' →
    AlikeEnds n (engine.execute r entry stack w) (engine.execute r entry stack w')

/-- **Invocations in alike states** go alike. -/
lemma DelegatedOperation.invoke_alike {engine : Engine σ ρ} {n : Nat} (hengine : engine.KnowsBelow n)
    {w w' : World σ ρ} (h : w.AlikeBelow n w') (op : DelegatedOperation ρ) (stack : Stack) :
    AlikeEnds n (op.invoke engine stack w) (op.invoke engine stack w') := by
  have hcall := hengine op.runner (engine.settings op.runner).entryPoint stack _ _
    (h.shielded op.switch)
  rw [invoke_eq, invoke_eq, h.acquire_fst]
  exact ⟨congrArg (Exit.mapError HostException.ofExecution) hcall.exit, hcall.stack, hcall.world.release _⟩

/-! ### What a failed installation leaves -/

namespace Installation

variable (i : Installation σ ρ η) (t : HostTables σ ρ) (w : World σ ρ)

/-- The shared state with the switch as an installation turns it: not at all if the configuration
does not pass the check. -/
def turned : World σ ρ :=
  match i.config.validate with
  | .ok _ => w.setSwitch i.switch i.config.settings.signalOverrides
  | .error _ => w

/-- Making a context does no more than turning the switch, for those who do not have the context. -/
lemma alikeBelow_make (spec : Context.Spec σ ρ η) :
    (w.setSwitch spec.switch spec.settings.signalOverrides).AlikeBelow w.contexts
      (Context.make spec w).2 where
  caches := rfl
  switches := rfl
  settings id hid := by
    refine setAt_of_ne w.settings spec.settings ?_
    rintro rfl
    exact Nat.lt_irrefl _ hid
  dispositions := rfl
  blocks := rfl
  outside := rfl

variable {i t w}

lemma turned_of_invalid {e : SetupError} (h : i.config.validate = .error e) : i.turned w = w := by
  rw [turned, h]

lemma turned_of_valid (h : i.config.validate = .ok ()) :
    i.turned w = w.setSwitch i.switch i.config.settings.signalOverrides := by
  rw [turned, h]

/-- **A failed installation turns the switch at most**, as far as anyone can notice. -/
lemma alikeBelow_of_install_error {e : SetupError} (h : (i.install t w).1 = .error e) :
    (i.turned w).AlikeBelow w.contexts (i.install t w).2.2 := by
  obtain ⟨e', hinvalid⟩ | ⟨s, hvalid, hs, htaken | hfree⟩ := i.install_cases t
  · rw [install_of_invalid hinvalid, turned_of_invalid hinvalid]
    exact .refl _ w
  · rw [install_of_taken hvalid hs htaken, turned_of_valid hvalid]
    exact alikeBelow_make w i.contextSpec
  · rw [install_of_free hvalid hs hfree] at h
    cases h

lemma turned_eq_self (h : (i.turned w).switches i.switch = w.switches i.switch) :
    i.turned w = w := by
  cases hvalid : i.config.validate with
  | error e => exact turned_of_invalid hvalid
  | ok u =>
    rw [turned_of_valid hvalid] at h ⊢
    have hsame : setAt w.switches i.switch i.config.settings.signalOverrides = w.switches := by
      funext s
      by_cases hs : s = i.switch
      · rw [hs]
        exact h
      · exact setAt_of_ne _ _ hs
    rw [World.setSwitch, hsame]

lemma turned_with_switches (i : Installation σ ρ η) (w : World σ ρ) :
    { i.turned w with switches := w.switches } = w := by
  rw [turned]
  split <;> rfl

lemma switches_turned_of_ne {s : SwitchId} (h : s ≠ i.switch) :
    (i.turned w).switches s = w.switches s := by
  rw [turned]
  split
  · exact setAt_of_ne _ _ h
  · rfl

/-- What is left of the tables `t` and the shared state `w` by a failed installation: the tables
`t'` and the shared state `w'`. -/
structure FailureLeaves (i : Installation σ ρ η) (t : HostTables σ ρ) (w : World σ ρ)
    (t' : HostTables σ ρ) (w' : World σ ρ) : Prop where
  /-- Both tables are as they were. -/
  tables : t' = t
  /-- The runners of all caches are as they were. -/
  caches : w'.caches = w.caches
  /-- The settings of all contexts that there were are as they were. -/
  settings : ∀ id : ContextId, id.number < w.contexts → w'.settings id = w.settings id
  /-- All other switches are as they were. -/
  otherSwitches : ∀ s, s ≠ i.switch → w'.switches s = w.switches s
  /-- With a configuration that does not pass the check nothing at all has changed. -/
  unchecked : ∀ e, i.config.validate = .error e → w' = w
  /-- With any other configuration the switch is as its settings want it. -/
  checked : i.config.validate = .ok () →
    w'.switches i.switch = i.config.settings.signalOverrides
  /-- An invocation calls the runner that it would have called, at the same entry point and with the
  same stack, and under the same dispositions unless its switch is that of the installation. -/
  called : ∀ (engine : Engine σ ρ) (op : DelegatedOperation ρ) (stack : Stack), ∃ a b,
    op.callsOfInvoke engine stack w = [a] ∧ op.callsOfInvoke engine stack w' = [b] ∧
    b.runner = a.runner ∧ b.entry = a.entry ∧ b.stack = a.stack ∧
    (op.switch ≠ i.switch → b.world.dispositions = a.world.dispositions)
  /-- If the switch was as the settings want it, or the configuration does not pass the check, all
  operations go on as if there had been no installation. -/
  asBefore : w'.switches i.switch = w.switches i.switch → ∀ engine : Engine σ ρ,
    engine.KnowsBelow w.contexts → ∀ (op : DelegatedOperation ρ) (stack : Stack),
      AlikeEnds w.contexts (op.invoke engine stack w) (op.invoke engine stack w')

/-- **What a failed installation leaves**: all is as it was, but for a switch that was turned if the
configuration had passed the check. -/
theorem failure_leaves {i : Installation σ ρ η} {t : HostTables σ ρ} {w : World σ ρ}
    {e : SetupError} (h : (i.install t w).1 = .error e) :
    FailureLeaves i t w (i.install t w).2.1 (i.install t w).2.2 := by
  have halike := alikeBelow_of_install_error h
  have hturned := turned_with_switches i w
  have hother : ∀ s, s ≠ i.switch → (i.install t w).2.2.switches s = w.switches s := fun s hs => by
    rw [halike.switches, switches_turned_of_ne hs]
  have hdispositions : (i.install t w).2.2.dispositions = w.dispositions := by
    rw [halike.dispositions, ← congrArg World.dispositions hturned]
  refine ⟨tables_of_install_error h, ?caches, ?settings, hother, ?unchecked, ?checked, ?called,
    ?asBefore⟩
  case caches => rw [halike.caches, ← congrArg World.caches hturned]
  case settings =>
    intro id hid
    rw [halike.settings id hid, ← congrArg World.settings hturned]
  case unchecked =>
    intro e' hinvalid
    rw [install_of_invalid hinvalid]
  case checked =>
    intro hvalid
    rw [halike.switches, turned_of_valid hvalid]
    exact setAt_self _ _ _
  case called =>
    intro engine op stack
    refine ⟨_, _, op.callsOfInvoke_eq engine stack w, op.callsOfInvoke_eq engine stack _, rfl, rfl,
      rfl, ?_⟩
    intro hswitch
    exact World.dispositions_shielded (hother op.switch hswitch) hdispositions
  case asBefore =>
    intro hsame engine hengine op stack
    rw [halike.switches] at hsame
    rw [turned_eq_self hsame] at halike
    exact op.invoke_alike hengine halike stack

/-! ### Installing twice -/

/-- An installation with the default configuration. -/
def plain : Installation Unit Unit Unit where
  factory _ s := (.returned (), s)

/-- An installation under the same symbol whose settings want the switch off. -/
def unguarded : Installation Unit Unit Unit :=
  { plain with config := { settings := { signalOverrides := false } } }

/-- A process with handlers of its own for both signals. -/
def handled : World Unit Unit :=
  { World.start ⟨0⟩ () with dispositions := ⟨.handler 1, .handler 1⟩ }

/-- The tables and the shared state of the process after the first installation. -/
def installedOnce : HostTables Unit Unit × World Unit Unit :=
  (plain.install .empty handled).2

/-- Runners that do nothing. -/
def idle : Engine Unit Unit where
  settings _ := {}
  execute _ _ stack w := (.returned (), stack, w)

lemma idle_knowsBelow (n : Nat) : idle.KnowsBelow n :=
  fun _ _ _ _ _ h => ⟨rfl, rfl, h⟩

/-- A second installation under the symbol fails. -/
lemma install_unguarded : (unguarded.install installedOnce.1 installedOnce.2).1 =
    .error (.duplicateOperator "fusebox::FusionGroup") := by
  rfl

/-- What is left by the second installation. -/
theorem failure_leaves_switch_off :
    let after := unguarded.install installedOnce.1 installedOnce.2
    after.1 = .error (.duplicateOperator "fusebox::FusionGroup") ∧
      idle.KnowsBelow installedOnce.2.contexts ∧
      FailureLeaves unguarded installedOnce.1 installedOnce.2 after.2.1 after.2.2 :=
  ⟨install_unguarded, idle_knowsBelow _, failure_leaves install_unguarded⟩

/-- The second installation fails, and turns the switch of the process off.  An operation that
executed its runner under default handling then executes it under the handlers of the process. -/
theorem taken_turns_switch :
    let op : DelegatedOperation Unit := ⟨(), .global⟩
    let before := installedOnce.2
    let after := unguarded.install installedOnce.1 before
    after.1 = .error (.duplicateOperator "fusebox::FusionGroup") ∧
      before.switches .global = true ∧ after.2.2.switches .global = false ∧
      (op.callsOfInvoke idle .empty before).map (fun c => c.world.dispositions) = [{}] ∧
      (op.callsOfInvoke idle .empty after.2.2).map (fun c => c.world.dispositions) =
        [⟨.handler 1, .handler 1⟩] :=
  ⟨install_unguarded, rfl, rfl, rfl, rfl⟩

end Installation

end Delegation
