import Delegation.Operators
import Mathlib.Tactic.Common
/-!
# The runner calls of an invocation

Which calls of runners an invocation makes is measured from outside: the runners are given a list to
which each call is added, with what it found and how it ended (`Engine.recorded`), and
`DelegatedOperation.callsOfInvoke` reads the list.  That an invocation otherwise goes as before is
`DelegatedOperation.invoke_recorded`.

`DelegatedOperation.callsOfInvoke_eq` and `DelegatedOperation.invoke_eq` say what an invocation does
in terms of its one call.  Later files use them and do not open `invoke`.
-/

namespace Delegation

variable {σ τ ρ : Type}

/-! ### State beside the outside state -/

/-- The shared state with another state of outside code. -/
def World.mapOutside (f : σ → τ) (w : World σ ρ) : World τ ρ :=
  ⟨w.caches, w.switches, w.settings, w.contexts, w.dispositions, w.blocks, f w.outside⟩

namespace World

/-- The dispositions under which the runner of an invocation is called. -/
def shielded (w : World σ ρ) (s : SwitchId) : World σ ρ :=
  if w.switches s then { w with dispositions := {} } else w

lemma shielded_of_on {w : World σ ρ} {s : SwitchId} (h : w.switches s = true) :
    w.shielded s = { w with dispositions := {} } := by
  rw [shielded, if_pos h]

lemma shielded_of_off {w : World σ ρ} {s : SwitchId} (h : w.switches s = false) :
    w.shielded s = w := by
  rw [shielded, h]
  rfl

/-- Nothing but the dispositions is different for the runner. -/
lemma shielded_with_dispositions (w : World σ ρ) (s : SwitchId) :
    { w.shielded s with dispositions := w.dispositions } = w := by
  cases h : w.switches s with
  | true => rw [shielded_of_on h]
  | false => rw [shielded_of_off h]

lemma acquire_of_on {w : World σ ρ} {s : SwitchId} (h : w.switches s = true) :
    w.acquire s = (some ⟨w.dispositions⟩, w.shielded s) := by
  rw [acquire, if_pos h, shielded_of_on h]
  rfl

lemma acquire_of_off {w : World σ ρ} {s : SwitchId} (h : w.switches s = false) :
    w.acquire s = (none, w.shielded s) := by
  rw [acquire, h, shielded_of_off h]
  rfl

lemma acquire_snd (w : World σ ρ) (s : SwitchId) : (w.acquire s).2 = w.shielded s := by
  cases h : w.switches s with
  | true => rw [acquire_of_on h]
  | false => rw [acquire_of_off h]

lemma acquire_mapOutside (f : σ → τ) (w : World σ ρ) (s : SwitchId) :
    (w.mapOutside f).acquire s = ((w.acquire s).1, (w.acquire s).2.mapOutside f) := by
  cases h : w.switches s with
  | true =>
    have hmap : (w.mapOutside f).switches s = true := h
    rw [acquire_of_on h, acquire_of_on hmap, shielded_of_on h, shielded_of_on hmap]
    rfl
  | false =>
    have hmap : (w.mapOutside f).switches s = false := h
    rw [acquire_of_off h, acquire_of_off hmap, shielded_of_off h, shielded_of_off hmap]

lemma release_mapOutside (f : σ → τ) (w : World σ ρ) (held : Option Guard) :
    (w.mapOutside f).release held = (w.release held).mapOutside f := by
  cases held with
  | none => rfl
  | some g => rfl

lemma release_outside (w : World σ ρ) (held : Option Guard) :
    (w.release held).outside = w.outside := by
  cases held with
  | none => rfl
  | some g => rfl

end World

/-! ### Runners whose calls are noted down -/

/-- A call of a runner. -/
structure RunnerCall (σ ρ : Type) where
  /-- The runner. -/
  runner : ρ
  /-- The entry point. -/
  entry : EntryPoint
  /-- The stack on entry. -/
  stack : Stack
  /-- The shared state on entry. -/
  world : World σ ρ
  /-- How the call ended. -/
  exit : Exit RunError Unit
  /-- The stack afterwards. -/
  stackAfter : Stack
  /-- The shared state afterwards. -/
  worldAfter : World σ ρ

namespace Engine

/-- The call of a runner. -/
def call (engine : Engine σ ρ) (r : ρ) (entry : EntryPoint) (stack : Stack) (w : World σ ρ) :
    RunnerCall σ ρ :=
  let result := engine.execute r entry stack w
  ⟨r, entry, stack, w, result.1, result.2.1, result.2.2⟩

/-- The same runners, each of whose calls is noted down. -/
def recorded (engine : Engine σ ρ) : Engine (σ × List (RunnerCall σ ρ)) ρ where
  settings := engine.settings
  execute r entry stack w :=
    let call := engine.call r entry stack (w.mapOutside Prod.fst)
    (call.exit, call.stackAfter,
      call.worldAfter.mapOutside fun s => (s, w.outside.2 ++ [call]))

end Engine

namespace DelegatedOperation

/-- The call that an invocation makes. -/
def call (engine : Engine σ ρ) (op : DelegatedOperation ρ) (stack : Stack) (w : World σ ρ) :
    RunnerCall σ ρ :=
  engine.call op.runner (engine.settings op.runner).entryPoint stack (w.shielded op.switch)

/-- The runner calls of an invocation. -/
def callsOfInvoke (engine : Engine σ ρ) (op : DelegatedOperation ρ) (stack : Stack)
    (w : World σ ρ) : List (RunnerCall σ ρ) :=
  (op.invoke engine.recorded stack (w.mapOutside fun s => (s, []))).2.2.outside.2

variable (engine : Engine σ ρ) (op : DelegatedOperation ρ) (stack : Stack)

/-- An invocation ends as its call does, and drops its guard. -/
lemma invoke_eq (w : World σ ρ) :
    op.invoke engine stack w =
      ((op.call engine stack w).exit.mapError .ofExecution, (op.call engine stack w).stackAfter,
        (op.call engine stack w).worldAfter.release (w.acquire op.switch).1) := by
  rw [call, ← World.acquire_snd]
  rfl

/-- **An invocation makes one call**, of its own runner. -/
lemma callsOfInvoke_eq (w : World σ ρ) :
    op.callsOfInvoke engine stack w = [op.call engine stack w] := by
  rw [callsOfInvoke, invoke, World.acquire_mapOutside, World.release_outside, World.acquire_snd]
  rfl

/-- Noting down the calls changes nothing else. -/
lemma invoke_recorded (w : World (σ × List (RunnerCall σ ρ)) ρ) :
    let noted := op.invoke engine.recorded stack w
    (noted.1, noted.2.1, noted.2.2.mapOutside Prod.fst) =
      op.invoke engine stack (w.mapOutside Prod.fst) := by
  simp only [invoke, World.acquire_mapOutside, ← World.release_mapOutside]
  rfl

/-! ### The shared state after an invocation -/

lemma invoke_of_off {w : World σ ρ} (h : w.switches op.switch = false) :
    (op.invoke engine stack w).2.2 = (op.call engine stack w).worldAfter := by
  rw [invoke_eq, World.acquire_of_off h]
  rfl

lemma invoke_of_on {w : World σ ρ} (h : w.switches op.switch = true) :
    (op.invoke engine stack w).2.2 =
      { (op.call engine stack w).worldAfter with
        dispositions :=
          (Guard.mk w.dispositions).release (op.call engine stack w).worldAfter.dispositions } := by
  rw [invoke_eq, World.acquire_of_on h]
  rfl

/-- Nothing but the dispositions is different from what the call left. -/
lemma invoke_with_dispositions (w : World σ ρ) :
    (op.invoke engine stack w).2.2 =
      { (op.call engine stack w).worldAfter with
        dispositions := (op.invoke engine stack w).2.2.dispositions } := by
  cases h : w.switches op.switch with
  | true => rw [invoke_of_on engine op stack h]
  | false => rw [invoke_of_off engine op stack h]

end DelegatedOperation

end Delegation
