import Delegation.Exception
import Delegation.Resolution
import Delegation.Stack
/-!
# Delegated operations

A delegated operation is a runner and the switch under which it executes.  The runner is resolved
once, when the operation is made; every invocation goes straight to it.  An invocation takes a
guard if the switch is on, calls one of the two entry points of the runner, drops the guard however
the call ended, and turns an error into a host exception with the error's text.
-/

namespace Delegation

/-- The two ways of executing a runner. -/
inductive EntryPoint where
  /-- Compile on demand if needed, then execute. -/
  | run
  /-- Execute what was compiled ahead of time. -/
  | runOnly
deriving DecidableEq, Repr

/-- What is known about runners: the settings they were built with, and what they do.  A runner may
change the stack and all of the shared state. -/
structure Engine (σ ρ : Type) where
  /-- The settings that a runner was built with. -/
  settings : ρ → Settings
  /-- The effect of a call. -/
  execute : ρ → EntryPoint → Stack → World σ ρ → Exit RunError Unit × Stack × World σ ρ

/-- A runner and the switch under which it executes. -/
structure DelegatedOperation (ρ : Type) where
  /-- The runner. -/
  runner : ρ
  /-- The switch. -/
  switch : SwitchId
deriving DecidableEq, Repr

/-- The entry point for runners with the given settings. -/
def Settings.entryPoint (s : Settings) : EntryPoint :=
  if s.preCompile then .runOnly else .run

/-- The exception for an error of an execution. -/
def HostException.ofExecution (e : RunError) : HostException :=
  ⟨.invalidArgument, e.message⟩

/-- The exception for an error of a resolution. -/
def HostException.ofResolution (e : RunError) : HostException :=
  ⟨.runtime, e.message⟩

namespace DelegatedOperation

variable {σ ρ η : Type}

/-- Execute the runner on the host stack. -/
def invoke (engine : Engine σ ρ) (op : DelegatedOperation ρ) (stack : Stack) (w : World σ ρ) :
    Exit HostException Unit × Stack × World σ ρ :=
  let held := w.acquire op.switch
  let r := engine.execute op.runner (engine.settings op.runner).entryPoint stack held.2
  (r.1.mapError .ofExecution, r.2.1, r.2.2.release held.1)

/-- Resolve the runner of a node and make it an operation.  Nothing is kept of a resolution that
fails. -/
def forNode (ctx : Context σ ρ η) (n : Node) (w : World σ ρ) :
    Exit HostException (DelegatedOperation ρ) × World σ ρ :=
  let r := ctx.resolve n w
  ((r.1.mapError .ofResolution).map fun runner => ⟨runner, ctx.switch⟩, r.2)

end DelegatedOperation

end Delegation
