import Delegation.Proofs.Interception.Calls
import Delegation.Proofs.Signals.Guards
/-!
# What an invocation promises

`Intercepts` states what an invocation does with its one runner call: which entry point is called
and under which dispositions, how the end of the call becomes the end of the invocation, and what
becomes of the dispositions.  It holds whatever the runner does (`DelegatedOperation.intercepts`).

Runners may themselves invoke delegated operations.  A `Behaviour` is such a runner as a tree, and
`Behaviour.dispositions_run` goes by induction on it: where only guards change dispositions, an
inner guard finds the default handling that an outer one has left, leaves it, and has nothing to
restore, so that at every depth the dispositions after an invocation are those before it.
-/

namespace Delegation

variable {σ ρ : Type}

/-! ### One invocation -/

/-- What an invocation in the shared state `w` does with its call: `exit`, `stack'` and `w'` are
its outcome. -/
structure Intercepts (settings : ρ → Settings) (op : DelegatedOperation ρ) (stack : Stack)
    (w : World σ ρ) (call : RunnerCall σ ρ) (exit : Exit HostException Unit) (stack' : Stack)
    (w' : World σ ρ) : Prop where
  /-- The call is one of the operation's own runner. -/
  runner : call.runner = op.runner
  /-- Only a runner that was compiled ahead of time is just executed. -/
  entry : call.entry = .runOnly ↔ (settings op.runner).preCompile = true
  /-- The runner finds the stack of the invocation. -/
  stack_before : call.stack = stack
  /-- With the switch on, the runner finds default handling and else nothing changed. -/
  world_on : w.switches op.switch = true → call.world = { w with dispositions := {} }
  /-- With the switch off, the runner finds nothing changed. -/
  world_off : w.switches op.switch = false → call.world = w
  /-- The invocation returns exactly when the runner does. -/
  returned : exit = .returned () ↔ call.exit = .returned ()
  /-- An error becomes an exception with the text of the error. -/
  failed : ∀ e, call.exit = .failed e → exit = .failed ⟨.invalidArgument, e.message⟩
  /-- A panic goes on. -/
  panicked : ∀ m, call.exit = .panicked m → exit = .panicked m
  /-- The stack is what the runner left. -/
  stack_after : stack' = call.stackAfter
  /-- With the switch on at first, a signal that was not handled by default is handled as before,
  whatever the runner did. -/
  restored : w.switches op.switch = true → ∀ s, w.dispositions.get s ≠ .default →
    w'.dispositions.get s = w.dispositions.get s
  /-- With the switch on at first, a signal that was handled by default is handled as the runner
  left it. -/
  as_left : w.switches op.switch = true → ∀ s, w.dispositions.get s = .default →
    w'.dispositions.get s = call.worldAfter.dispositions.get s
  /-- With the switch off at first, both signals are handled as the runner left them. -/
  as_left_off : w.switches op.switch = false → w'.dispositions = call.worldAfter.dispositions
  /-- Everything but the dispositions is what the runner left. -/
  frame : { w' with dispositions := call.worldAfter.dispositions } = call.worldAfter

lemma Settings.entryPoint_eq_runOnly_iff (s : Settings) :
    s.entryPoint = .runOnly ↔ s.preCompile = true := by
  rw [entryPoint]
  cases s.preCompile <;> simp

namespace DelegatedOperation

variable (engine : Engine σ ρ) (op : DelegatedOperation ρ) (stack : Stack) (w : World σ ρ)

/-- The end of a runner call becomes the end of the invocation. -/
lemma invoke_fst : (op.invoke engine stack w).1 =
    (op.call engine stack w).exit.mapError .ofExecution := by
  rw [invoke_eq]

lemma get_invoke_of_on {w : World σ ρ} (h : w.switches op.switch = true) (s : Signal) :
    (op.invoke engine stack w).2.2.dispositions.get s =
      if w.dispositions.get s = .default then
        (op.call engine stack w).worldAfter.dispositions.get s
      else w.dispositions.get s := by
  rw [invoke_of_on engine op stack h]
  exact Guard.get_release _ _ s

/-- **The law of one invocation**, for every runner. -/
lemma intercepts : Intercepts engine.settings op stack w (op.call engine stack w)
    (op.invoke engine stack w).1 (op.invoke engine stack w).2.1 (op.invoke engine stack w).2.2 where
  runner := rfl
  entry := (engine.settings op.runner).entryPoint_eq_runOnly_iff
  stack_before := rfl
  world_on h := World.shielded_of_on h
  world_off h := World.shielded_of_off h
  returned := by
    rw [invoke_fst]
    cases (op.call engine stack w).exit <;> simp [Exit.mapError]
  failed e he := by
    rw [invoke_fst, he]
    rfl
  panicked m hm := by
    rw [invoke_fst, hm]
    rfl
  stack_after := by rw [invoke_eq]
  restored h s hs := by rw [get_invoke_of_on engine op stack h, if_neg hs]
  as_left h s hs := by rw [get_invoke_of_on engine op stack h, if_pos hs]
  as_left_off h := by rw [invoke_of_off engine op stack h]
  frame := by rw [invoke_with_dispositions]

/-- An invocation whose runner leaves the dispositions as it finds them leaves them as well. -/
lemma dispositions_invoke {op : DelegatedOperation ρ}
    (h : ∀ entry stack w, (engine.execute op.runner entry stack w).2.2.dispositions =
      w.dispositions) :
    (op.invoke engine stack w).2.2.dispositions = w.dispositions := by
  have hcall : (op.call engine stack w).worldAfter.dispositions =
      (w.shielded op.switch).dispositions := h _ _ _
  cases hon : w.switches op.switch with
  | false => rw [invoke_of_off engine op stack hon, hcall, World.shielded_of_off hon]
  | true =>
    rw [invoke_of_on engine op stack hon, hcall, World.shielded_of_on hon]
    exact Guard.release_install w.dispositions

end DelegatedOperation

/-! ### Invocations within invocations -/

/-- What a runner does, as a tree. -/
inductive Behaviour (σ ρ : Type) where
  /-- It comes to its end. -/
  | finish (exit : Exit RunError Unit)
  /-- It changes the stack and the shared state, and goes on as they are then. -/
  | act (change : Stack → World σ ρ → Stack × World σ ρ)
      (next : Stack → World σ ρ → Behaviour σ ρ)
  /-- It invokes a delegated operation, whose runner behaves as a tree too, and goes on as the
  invocation ended. -/
  | invoke (op : DelegatedOperation ρ) (callee : EntryPoint → Behaviour σ ρ)
      (next : Exit HostException Unit → Behaviour σ ρ)

namespace Behaviour

/-- Do what the tree says. -/
def run (settings : ρ → Settings) :
    Behaviour σ ρ → Stack → World σ ρ → Exit RunError Unit × Stack × World σ ρ
  | finish exit, stack, w => (exit, stack, w)
  | act change next, stack, w =>
    let r := change stack w
    (next r.1 r.2).run settings r.1 r.2
  | invoke op callee next, stack, w =>
    let engine : Engine σ ρ := ⟨settings, fun _ entry => (callee entry).run settings⟩
    let r := op.invoke engine stack w
    (next r.1).run settings r.2.1 r.2.2

/-- Nothing but the guards of the invocations in the tree changes dispositions. -/
def OnlyGuards : Behaviour σ ρ → Prop
  | finish _ => True
  | act change next =>
    (∀ stack w, (change stack w).2.dispositions = w.dispositions) ∧
      ∀ stack w, (next stack w).OnlyGuards
  | invoke _ callee next => (∀ entry, (callee entry).OnlyGuards) ∧ ∀ exit, (next exit).OnlyGuards

/-- **Guards that nest cancel out.** -/
lemma dispositions_run (settings : ρ → Settings) {b : Behaviour σ ρ} (h : b.OnlyGuards)
    (stack : Stack) (w : World σ ρ) :
    (b.run settings stack w).2.2.dispositions = w.dispositions := by
  induction b generalizing stack w with
  | finish exit => rfl
  | act change next ih =>
    rw [run, ih _ _ (h.2 _ _), h.1]
  | invoke op callee next ihcallee ihnext =>
    rw [run, ihnext _ (h.2 _)]
    exact DelegatedOperation.dispositions_invoke _ stack w
      fun entry stack w => ihcallee entry (h.1 entry) stack w

end Behaviour

/-- Runners that behave as trees. -/
def Engine.ofBehaviour (settings : ρ → Settings) (behaviour : ρ → EntryPoint → Behaviour σ ρ) :
    Engine σ ρ :=
  ⟨settings, fun r entry => (behaviour r entry).run settings⟩

namespace DelegatedOperation

/-- **The interception law.**  Whatever its runner does, an invocation makes one call, and does with
it what `Intercepts` demands.  Where runners invoke operations in turn, to any depth, and nothing
but guards changes dispositions, the dispositions after an invocation are those before it. -/
theorem invoke_intercepts (op : DelegatedOperation ρ) :
    (∀ (engine : Engine σ ρ) (stack : Stack) (w : World σ ρ), ∃ call : RunnerCall σ ρ,
      op.callsOfInvoke engine stack w = [call] ∧
      engine.execute call.runner call.entry call.stack call.world =
        (call.exit, call.stackAfter, call.worldAfter) ∧
      Intercepts engine.settings op stack w call (op.invoke engine stack w).1
        (op.invoke engine stack w).2.1 (op.invoke engine stack w).2.2) ∧
    ∀ (settings : ρ → Settings) (behaviour : ρ → EntryPoint → Behaviour σ ρ),
      (∀ r entry, (behaviour r entry).OnlyGuards) → ∀ (stack : Stack) (w : World σ ρ),
      (op.invoke (.ofBehaviour settings behaviour) stack w).2.2.dispositions = w.dispositions := by
  constructor
  · intro engine stack w
    exact ⟨op.call engine stack w, op.callsOfInvoke_eq engine stack w, rfl,
      op.intercepts engine stack w⟩
  · intro settings behaviour h stack w
    exact dispositions_invoke _ stack w
      fun entry stack w => Behaviour.dispositions_run settings (h op.runner entry) stack w

/-- A runner turns the switch off and invokes another operation, whose runner panics under default
handling; it catches the panic and fails.  Both handlers are there again at the end. -/
theorem invoke_intercepts_nested :
    let inner : DelegatedOperation Bool := ⟨true, .global⟩
    let outer : DelegatedOperation Bool := ⟨false, ⟨1⟩⟩
    let crash : Behaviour Unit Bool := .finish (.panicked "lost")
    let nested : Behaviour Unit Bool :=
      .act (fun stack w => (stack.push (.int 7), w.setSwitch ⟨1⟩ false)) fun _ _ =>
        .invoke inner (fun _ => crash) fun _ => .finish (.failed (.execution "inner lost"))
    let behaviour : Bool → EntryPoint → Behaviour Unit Bool :=
      fun r _ => if r then crash else nested
    let w : World Unit Bool :=
      { World.start ⟨0⟩ () with dispositions := ⟨.handler 1, .ignore⟩ }
    let engine : Engine Unit Bool := .ofBehaviour (fun _ => {}) behaviour
    (∀ r entry, (behaviour r entry).OnlyGuards) ∧
      (outer.invoke engine .empty w).1 =
        .failed ⟨.invalidArgument, "Execution failed: inner lost"⟩ ∧
      (outer.invoke engine .empty w).2.2.switches ⟨1⟩ = false ∧
      (outer.invoke engine .empty w).2.2.dispositions = ⟨.handler 1, .ignore⟩ := by
  intro inner outer crash nested behaviour w engine
  have hguards : ∀ r entry, (behaviour r entry).OnlyGuards := by
    intro r entry
    cases r with
    | true => trivial
    | false => exact ⟨fun _ _ => rfl, fun _ _ => ⟨fun _ => trivial, fun _ => trivial⟩⟩
  exact ⟨hguards, by decide, by decide,
    outer.invoke_intercepts.2 (fun _ => {}) behaviour hguards .empty w⟩

end DelegatedOperation

end Delegation
