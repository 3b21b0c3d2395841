import Delegation.Graph.Evaluation
import Delegation.Interception
/-!
# A runner that evaluates its block node by node

The interpreter knows three operators on tensors.  It takes one value for each block input from
the stack, the last one on top, evaluates the nodes in order, and pushes the block outputs in
order.  Each block output can be given once.
-/

namespace Delegation.Interpreter

/-- The bindings of value numbers to tensors. -/
abbrev Bindings := Env Tensor

/-- The kinds that the interpreter knows. -/
def supportedKinds : List Symbol :=
  [⟨"aten", "add"⟩, ⟨"aten", "mul"⟩, ⟨"aten", "relu"⟩]

/-- The first node of a block whose kind is not known. -/
def unsupported? (b : Block Node) : Option Node :=
  b.nodes.find? fun n => !supportedKinds.contains n.kind

/-- The runner's check of a block before it is built. -/
def accept (b : Block Node) : Except RunError Unit :=
  match unsupported? b with
  | some n => .error (.compilation ("unsupported op " ++ n.kind.qualified))
  | none => .ok ()

/-- The tensor that a node reads at a position. -/
def operand (env : Bindings) (n : Node) (i : Nat) : Exit RunError Tensor :=
  .ofOption (.execution (n.kind.qualified ++ " is missing input " ++ toString i))
    (n.inputs[i]?.bind env)

/-- Apply a function to each pair of elements of two tensors of one shape. -/
def pairwise (f : Single → Single → Single) (a b : Tensor) : Exit RunError Tensor :=
  if a.shape = b.shape then
    (Tensor.make a.shape (List.zipWith f a.data b.data)).mapError .fault
  else
    .failed (.execution ("shape mismatch: " ++ Tensor.shapeText a.shape ++ " vs " ++
      Tensor.shapeText b.shape))

/-- The tensor that a node computes. -/
def compute (env : Bindings) (n : Node) : Exit RunError Tensor :=
  if n.kind.name = "relu" then do
    let x ← operand env n 0
    (x.mapData Single.relu).mapError .fault
  else if n.kind.name = "add" then do
    let a ← operand env n 0
    let b ← operand env n 1
    pairwise Single.add a b
  else if n.kind.name = "mul" then do
    let a ← operand env n 0
    let b ← operand env n 1
    pairwise Single.mul a b
  else
    .failed (.execution ("no kernel for " ++ n.kind.name))

/-- The bindings after a node.  A node without outputs has nowhere to put its result. -/
def step (env : Bindings) (n : Node) : Exit RunError Bindings :=
  (compute env n).bind fun t =>
    match n.outputs with
    | v :: _ => .returned (env.bind v t)
    | [] => .panicked "index out of bounds: the len is 0 but the index is 0"

/-- The bindings after several nodes. -/
def stepAll : Bindings → List Node → Exit RunError Bindings
  | env, [] => .returned env
  | env, n :: ns => (step env n).bind fun env => stepAll env ns

/-- Bind block inputs to the values taken from the stack, which have to be tensors. -/
def bindArguments : Bindings → List ValueId → List Value → Except Fault Bindings
  | env, v :: vs, a :: as =>
    match a.asTensor with
    | .ok t => bindArguments (env.bind v t) vs as
    | .error e => .error e
  | env, _, _ => .ok env

/-- Push block outputs.  An output that was pushed is bound no more; those before a failure stay on
the stack. -/
def pushOutputs : Bindings → List ValueId → Stack → Exit RunError Unit × Stack
  | _, [], s => (.returned (), s)
  | env, v :: vs, s =>
    match env v with
    | some t => pushOutputs (fun w => if w = v then none else env w) vs (s.push (.tensor t))
    | none => (.failed (.execution ("output " ++ v.display ++ " never produced")), s)

/-- Run a block on the stack.  Arguments that were taken are gone when the run fails. -/
def run (b : Block Node) (s : Stack) : Exit RunError Unit × Stack :=
  match s.popMany b.inputs.length with
  | .error e => (.failed (.fault e), s)
  | .ok (args, s') =>
    match bindArguments Env.empty b.inputs args with
    | .error e => (.failed (.fault e), s')
    | .ok env =>
      match stepAll env b.nodes with
      | .returned env' => pushOutputs env' b.outputs s'
      | .failed e => (.failed e, s')
      | .panicked m => (.panicked m, s')

end Delegation.Interpreter
