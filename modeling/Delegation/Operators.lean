import Delegation.Interception
import Delegation.SetupError
/-!
# The operator table of the host

Operators are registered by symbol, each with a factory that makes the operation for a node of that
kind.  A symbol may be registered once; a second registration is refused and changes nothing.
-/

namespace Delegation

/-- How the host may reason about the side effects of an operator. -/
inductive AliasAnalysis where
  /-- No side effects, outputs depend only on inputs. -/
  | pureFunction
  /-- Anything may alias. -/
  | conservative
  /-- The schema of the operator says. -/
  | fromSchema
deriving DecidableEq, Repr

/-- The name of a kind of alias analysis. -/
def AliasAnalysis.label : AliasAnalysis → String
  | .pureFunction => "PureFunction"
  | .conservative => "Conservative"
  | .fromSchema => "FromSchema"

/-- What the host runs for a node. -/
inductive Operation (ρ : Type) where
  /-- A delegated operation. -/
  | delegated (op : DelegatedOperation ρ)
  /-- An operation of the host's own, acting on the stack alone. -/
  | native (run : Stack → Exit HostException Unit × Stack)

/-- Run an operation on the host stack. -/
def Operation.invoke {σ ρ : Type} (engine : Engine σ ρ) (op : Operation ρ) (stack : Stack)
    (w : World σ ρ) : Exit HostException Unit × Stack × World σ ρ :=
  match op with
  | delegated d => d.invoke engine stack w
  | native run =>
    let r := run stack
    (r.1, r.2, w)

/-- How the operation for a node is made. -/
abbrev OperationFactory (σ ρ : Type) :=
  Node → World σ ρ → Exit HostException (Operation ρ) × World σ ρ

/-- An entry of the operator table. -/
structure RegisteredOperator (σ ρ : Type) where
  /-- The symbol. -/
  symbol : Symbol
  /-- The alias analysis. -/
  aliasing : AliasAnalysis
  /-- The factory. -/
  factory : OperationFactory σ ρ

/-- The operators known to the host, in the order of registration. -/
structure OperatorTable (σ ρ : Type) where
  /-- The entries. -/
  entries : List (RegisteredOperator σ ρ)

namespace OperatorTable

variable {σ ρ η : Type}

/-- The table without entries. -/
def empty : OperatorTable σ ρ :=
  ⟨[]⟩

/-- The entry of a symbol. -/
def lookup (t : OperatorTable σ ρ) (symbol : Symbol) : Option (RegisteredOperator σ ρ) :=
  t.entries.find? fun e => e.symbol = symbol

/-- Whether a symbol has an entry. -/
def contains (t : OperatorTable σ ρ) (symbol : Symbol) : Bool :=
  (t.lookup symbol).isSome

/-- The number of entries. -/
def size (t : OperatorTable σ ρ) : Nat :=
  t.entries.length

/-- Register an operator whose symbol has no entry yet. -/
def register (t : OperatorTable σ ρ) (symbol : Symbol) (aliasing : AliasAnalysis)
    (factory : OperationFactory σ ρ) : Except SetupError (OperatorTable σ ρ) :=
  if t.contains symbol then .error (.duplicateOperator symbol.qualified)
  else .ok ⟨t.entries ++ [⟨symbol, aliasing, factory⟩]⟩

/-- The factory of delegated operations in a context. -/
def delegatedFactory (ctx : Context σ ρ η) : OperationFactory σ ρ := fun n w =>
  let r := DelegatedOperation.forNode ctx n w
  (r.1.map .delegated, r.2)

/-- Register a symbol as a delegated operator. -/
def registerDelegated (t : OperatorTable σ ρ) (ctx : Context σ ρ η) (symbol : Symbol) :
    Except SetupError (OperatorTable σ ρ) :=
  t.register symbol .pureFunction (delegatedFactory ctx)

/-- Make the operation for a node. -/
def createOperation (t : OperatorTable σ ρ) : OperationFactory σ ρ := fun n w =>
  match t.lookup n.kind with
  | some e => e.factory n w
  | none => (.failed ⟨.runtime, "No operator registered for " ++ n.kind.qualified⟩, w)

end OperatorTable

end Delegation
