import Delegation.Context
/-!
# Finding the runner of a fusion node

A runner is looked for under the identity of the node's subgraph, then under the name of the node's
kind, where runners preloaded ahead of time are, and is otherwise built and added under the
identity.  Each of the three is one operation on the cache, and other users of the cache may act in
between; `resolve` is the three of them in a row.
-/

namespace Delegation.Context

variable {σ ρ η : Type}

/-- The runner under the identity of a subgraph. -/
def lookupIdentity (ctx : Context σ ρ η) (g : Subgraph Node) (w : World σ ρ) : Option ρ :=
  (w.caches ctx.cache).get? (.identity g.id)

/-- The runner under the name of a kind. -/
def lookupName (ctx : Context σ ρ η) (kind : Symbol) (w : World σ ρ) : Option ρ :=
  (w.caches ctx.cache).get? (.name kind.qualified)

/-- The runner under the identity of a subgraph, built and added if there is none. -/
def buildIdentity (ctx : Context σ ρ η) (g : Subgraph Node) (w : World σ ρ) :
    Exit RunError ρ × World σ ρ :=
  w.getOrInsert ctx.cache (.identity g.id) (ctx.factory (ctx.request w g))

/-- Find or build the runner of a node. -/
def resolve (ctx : Context σ ρ η) (n : Node) (w : World σ ρ) : Exit RunError ρ × World σ ρ :=
  match n.subgraph with
  | none => (.failed (.missingSubgraph n.kind), w)
  | some g =>
    match ctx.lookupIdentity g w with
    | some r => (.returned r, w)
    | none =>
      match ctx.lookupName n.kind w with
      | some r => (.returned r, w)
      | none => ctx.buildIdentity g w

end Delegation.Context
