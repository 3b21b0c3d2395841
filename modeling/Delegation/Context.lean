import Delegation.World
/-!
# Contexts

A context is what delegated execution hangs off: the cache it uses, the factory that builds
runners, the host manager and the backend name handed to that factory, an override switch, and the
settings currently in force.  The settings are part of the shared state, so that they can be
replaced while operations made earlier keep the runners they have.
-/

namespace Delegation

/-- What a compiler reaches the host's devices by.  Managers of one name may have different devices
behind them, of which the program sees nothing. -/
structure HostManager (η : Type) where
  /-- Its name. -/
  name : String
  /-- The devices behind it; a local manager has none. -/
  devices : Option η := none

/-- What a compiler is asked to build. -/
structure BuildRequest (η : Type) where
  /-- The subgraph to compile. -/
  subgraph : Subgraph Node
  /-- The host manager. -/
  host : HostManager η
  /-- The name of the backend. -/
  backend : String
  /-- The settings that the runner will keep. -/
  settings : Settings

/-- A compiler: it gives a runner or an error, and may change its own state. -/
abbrev Factory (σ ρ η : Type) := BuildRequest η → σ → Exit RunError ρ × σ

/-- A context; its settings are found in the shared state. -/
structure Context (σ ρ η : Type) where
  /-- Its name. -/
  id : ContextId
  /-- The cache of its runners. -/
  cache : CacheId
  /-- The compiler of its runners. -/
  factory : Factory σ ρ η
  /-- The host manager given to the compiler. -/
  host : HostManager η
  /-- The backend name given to the compiler. -/
  backend : String
  /-- The switch of its operations. -/
  switch : SwitchId

/-- The backend of contexts that name none. -/
def defaultBackend : String := "Interpreter"

/-- The host manager of contexts that are given none: a local one. -/
def defaultHost {η : Type} : HostManager η := { name := "host" }

namespace Context

variable {σ ρ η : Type}

/-- What a context is made from.  Without a cache or a switch of its own it uses those of the
process. -/
structure Spec (σ ρ η : Type) where
  /-- The compiler. -/
  factory : Factory σ ρ η
  /-- The cache. -/
  cache : CacheId := .global
  /-- The host manager. -/
  host : HostManager η := defaultHost
  /-- The backend name. -/
  backend : String := defaultBackend
  /-- The first settings. -/
  settings : Settings := {}
  /-- The switch. -/
  switch : SwitchId := .global

/-- Replace the settings in force.  The switch follows them at once; runners that are already built
keep the settings they were built with. -/
def updateSettings (ctx : Context σ ρ η) (s : Settings) (w : World σ ρ) : World σ ρ :=
  { w.setSwitch ctx.switch s.signalOverrides with settings := setAt w.settings ctx.id s }

/-- Make a context.  Its switch is set from its settings, also when others share it. -/
def make (spec : Spec σ ρ η) (w : World σ ρ) : Context σ ρ η × World σ ρ :=
  let ctx : Context σ ρ η :=
    ⟨⟨w.contexts⟩, spec.cache, spec.factory, spec.host, spec.backend, spec.switch⟩
  (ctx, ctx.updateSettings spec.settings { w with contexts := w.contexts + 1 })

/-- The settings in force. -/
def settings (ctx : Context σ ρ η) (w : World σ ρ) : Settings :=
  w.settings ctx.id

/-- What the compiler is asked for a subgraph now. -/
def request (ctx : Context σ ρ η) (w : World σ ρ) (g : Subgraph Node) : BuildRequest η :=
  ⟨g, ctx.host, ctx.backend, ctx.settings w⟩

/-- Build a runner for a subgraph without the cache. -/
def buildRunner (ctx : Context σ ρ η) (g : Subgraph Node) (w : World σ ρ) :
    Exit RunError ρ × World σ ρ :=
  let r := ctx.factory (ctx.request w g) w.outside
  (r.1, { w with outside := r.2 })

/-- Put a runner under the name of an operator, for all fusion nodes of that kind whose subgraph
has no runner of its own. -/
def preload (ctx : Context σ ρ η) (symbol : Symbol) (build : σ → Exit RunError ρ × σ)
    (w : World σ ρ) : Exit RunError ρ × World σ ρ :=
  w.getOrInsert ctx.cache (.name symbol.qualified) build

/-- Preload a runner that is built for a representative subgraph. -/
def preloadSubgraph (ctx : Context σ ρ η) (symbol : Symbol) (g : Subgraph Node) (w : World σ ρ) :
    Exit RunError ρ × World σ ρ :=
  ctx.preload symbol (ctx.factory (ctx.request w g)) w

end Context

end Delegation
