import Delegation.Fusion.Fuser
import Delegation.Operators
/-!
# The pass table of the host

The host runs the registered passes in order over each graph that it optimises.  A fusion pass has
a gate, which is asked each time the pass runs and not when it is registered.
-/

namespace Delegation

/-- A change of graphs, which may read and change the shared state. -/
abbrev Pass (σ ρ : Type) := Graph → World σ ρ → Graph × World σ ρ

/-- A condition on the shared state. -/
abbrev Gate (σ ρ : Type) := World σ ρ → Bool

/-- Passes in the order in which they run. -/
structure PassTable (σ ρ : Type) where
  /-- The passes. -/
  passes : List (Pass σ ρ)

/-- The pass that appends a node. -/
def appendPass {σ ρ : Type} (n : Node) : Pass σ ρ :=
  fun g w => (g.push n, w)

/-- The pass that fuses while its gate is open. -/
def fusionPass {σ ρ : Type} (fuser : Fuser) (kind : Symbol) (gate : Gate σ ρ) : Pass σ ρ :=
  fun g w =>
    if gate w then
      let r := fuser kind g w.blocks
      (r.graph, { w with blocks := r.supply })
    else (g, w)

namespace PassTable

variable {σ ρ η : Type}

/-- The table without passes. -/
def empty : PassTable σ ρ :=
  ⟨[]⟩

/-- The number of passes. -/
def size (t : PassTable σ ρ) : Nat :=
  t.passes.length

/-- Append a pass. -/
def register (t : PassTable σ ρ) (pass : Pass σ ρ) : PassTable σ ρ :=
  ⟨t.passes ++ [pass]⟩

/-- Append a fusion pass. -/
def registerFusion (t : PassTable σ ρ) (fuser : Fuser) (kind : Symbol) (gate : Gate σ ρ) :
    PassTable σ ρ :=
  t.register (fusionPass fuser kind gate)

/-- Run all passes in order. -/
def runAll (t : PassTable σ ρ) (g : Graph) (w : World σ ρ) : Graph × World σ ρ :=
  t.passes.foldl (fun r pass => pass r.1 r.2) (g, w)

end PassTable

/-- The two tables of a host. -/
structure HostTables (σ ρ : Type) where
  /-- The operators. -/
  operators : OperatorTable σ ρ
  /-- The passes. -/
  passes : PassTable σ ρ

namespace HostTables

variable {σ ρ η : Type}

/-- The tables of a host that knows nothing. -/
def empty : HostTables σ ρ :=
  ⟨.empty, .empty⟩

/-- Register a delegated operator and its fusion pass, or neither. -/
def registerFusionOperator (t : HostTables σ ρ) (ctx : Context σ ρ η) (fuser : Fuser)
    (symbol : Symbol) (gate : Gate σ ρ) : Except SetupError (HostTables σ ρ) :=
  match t.operators.registerDelegated ctx symbol with
  | .ok operators => .ok ⟨operators, t.passes.registerFusion fuser symbol gate⟩
  | .error e => .error e

end HostTables

end Delegation
