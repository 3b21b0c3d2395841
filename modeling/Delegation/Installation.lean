import Delegation.Config.Basic
import Delegation.Passes
/-!
# Installing delegation into a host

An installation makes a context from a configuration, registers the delegated operator, and, when
a fuser or a set of supported kinds is given, the fusion pass behind its gate.  The configuration
is checked before anything happens.  The context is made before the operator is registered, so a
symbol that is already taken leaves both tables alone but has set the switch.
-/

namespace Delegation

/-- What is installed. -/
structure Installation (σ ρ η : Type) where
  /-- The compiler of runners. -/
  factory : Factory σ ρ η
  /-- The configuration. -/
  config : Config := {}
  /-- The cache, if not that of the process. -/
  cache : CacheId := .global
  /-- The host manager. -/
  host : HostManager η := defaultHost
  /-- The switch, if not that of the process. -/
  switch : SwitchId := .global
  /-- A fuser to use in place of one for the supported kinds. -/
  fuser : Option Fuser := none
  /-- The kinds to fuse when no fuser is given. -/
  supported : List Symbol := []
  /-- A gate to use in place of the flag in the settings of the context. -/
  gate : Option (Gate σ ρ) := none

namespace Installation

variable {σ ρ η : Type}

/-- The fuser of the fusion pass, if there is to be one. -/
def chosenFuser (i : Installation σ ρ η) : Option Fuser :=
  match i.fuser with
  | some f => some f
  | none =>
    if i.supported.isEmpty then none
    else some (KindFuser.withSettings { supported := i.supported } i.config.settings).fuse

/-- The gate that follows the settings in force of a context. -/
def settingsGate (ctx : Context σ ρ η) : Gate σ ρ := fun w =>
  (ctx.settings w).fusionEnabled

/-- The context of an installation. -/
def contextSpec (i : Installation σ ρ η) : Context.Spec σ ρ η where
  factory := i.factory
  cache := i.cache
  host := i.host
  backend := i.config.backendName
  settings := i.config.settings
  switch := i.switch

/-- Install: a context on success, and the tables and the shared state afterwards in any case. -/
def install (i : Installation σ ρ η) (t : HostTables σ ρ) (w : World σ ρ) :
    Except SetupError (Context σ ρ η) × HostTables σ ρ × World σ ρ :=
  match i.config.validate, i.config.symbol with
  | .error e, _ => (.error e, t, w)
  | _, .error e => (.error e, t, w)
  | .ok _, .ok symbol =>
    let made := Context.make i.contextSpec w
    match t.operators.registerDelegated made.1 symbol with
    | .error e => (.error e, t, made.2)
    | .ok operators =>
      match i.chosenFuser with
      | none => (.ok made.1, ⟨operators, t.passes⟩, made.2)
      | some fuser =>
        let gate := i.gate.getD (settingsGate made.1)
        (.ok made.1, ⟨operators, t.passes.registerFusion fuser symbol gate⟩, made.2)

end Installation

end Delegation
