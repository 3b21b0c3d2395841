import Delegation.Graph.Basic
/-!
# Evaluating graphs node by node

An environment gives values to some value numbers.  A node reads its inputs, yields one value for
each of its outputs, and assigns them in order, so that the last of several assignments to one
number stays.  A node without a subgraph is interpreted by a partial function of its kind and the
values it reads; a node with a subgraph evaluates its block in an environment of its own, in which
only the block inputs are bound.  Evaluation fails when a value is read that is not bound, when an
interpretation fails, and when counts do not match.
-/

namespace Delegation

/-- A partial assignment of values to value numbers. -/
abbrev Env (α : Type) := ValueId → Option α

namespace Env

variable {α : Type}

/-- The environment in which nothing is bound. -/
def empty : Env α := fun _ => none

/-- Bind one value number. -/
def bind (env : Env α) (v : ValueId) (a : α) : Env α :=
  fun w => if w = v then some a else env w

/-- Bind value numbers to values one after the other, as long as there are both. -/
def bindAll : Env α → List ValueId → List α → Env α
  | env, v :: vs, a :: as => bindAll (env.bind v a) vs as
  | env, _, _ => env

/-- The values of several value numbers, if all are bound. -/
def read (env : Env α) (vs : List ValueId) : Option (List α) :=
  vs.mapM env

/-- Bind value numbers to exactly as many values. -/
def assign (env : Env α) (vs : List ValueId) (as : List α) : Option (Env α) :=
  if as.length = vs.length then some (env.bindAll vs as) else none

end Env

/-- The meaning of the operators: a partial function of a kind and the values that are read. -/
abbrev Interpretation (α : Type) := Symbol → List α → Option (List α)

mutual

/-- The environment after a node. -/
def Node.eval {α : Type} (op : Interpretation α) : Node → Env α → Option (Env α)
  | ⟨kind, inputs, outputs, none⟩, env => do
    let args ← env.read inputs
    let results ← op kind args
    env.assign outputs results
  | ⟨_, inputs, outputs, some ⟨_, ⟨params, nodes, gives⟩⟩⟩, env => do
    let args ← env.read inputs
    let start ← Env.empty.assign params args
    let final ← Node.evalAll op nodes start
    let results ← final.read gives
    env.assign outputs results

/-- The environment after several nodes. -/
def Node.evalAll {α : Type} (op : Interpretation α) : List Node → Env α → Option (Env α)
  | [], env => some env
  | n :: ns, env => (n.eval op env).bind (Node.evalAll op ns)

end

/-- The values of the graph outputs after all nodes. -/
def Graph.eval {α : Type} (op : Interpretation α) (g : Graph) (env : Env α) : Option (List α) :=
  (Node.evalAll op g.nodes env).bind fun final => final.read g.outputs

end Delegation
