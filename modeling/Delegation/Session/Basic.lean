import Delegation.Backend.Bench
import Delegation.Foreign
import Delegation.Installation
import Delegation.Number.Reading
/-!
# Sessions with named objects

A session is the shared state of a bench together with objects that were given names: compilers,
contexts, tables, stacks, graphs, nodes, operations and guards.  Caches, switches, gates, tables and
stacks come into being when they are first named; an action that names any other object that does
not exist is refused.

Subgraphs and runners have labels in place of names.  They are numbered in the order in which they
are first shown, each by its identity and not by its contents.
-/

namespace Delegation

/-- Objects by name, the latest first. -/
abbrev Names (α : Type) := List (String × α)

/-- A compiler of the bench. -/
structure Session.Compiler where
  /-- Its number on the bench. -/
  id : Nat
  /-- Whether its runners follow a script. -/
  scripted : Bool
  /-- How it builds. -/
  factory : Factory Bench Bench.Runner Empty

/-- A session. -/
structure Session where
  /-- The shared state. -/
  world : World Bench Bench.Runner := .start ⟨0x7f3a00000000⟩ {}
  /-- The number of compilers that were made. -/
  compilerCount : Nat := 0
  /-- The compilers. -/
  compilers : Names Session.Compiler := []
  /-- The contexts. -/
  contexts : Names (Context Bench Bench.Runner Empty) := []
  /-- The names of caches; the position of a name is the number of its cache. -/
  caches : List String := ["global"]
  /-- The names of switches, likewise. -/
  switches : List String := ["global"]
  /-- The names of gates, likewise. -/
  gates : List String := []
  /-- The operator tables. -/
  operators : Names (OperatorTable Bench Bench.Runner) := []
  /-- The pass tables. -/
  passes : Names (PassTable Bench Bench.Runner) := []
  /-- The stacks. -/
  valueStacks : Names Stack := []
  /-- The graphs. -/
  graphs : Names Graph := []
  /-- The nodes. -/
  nodes : Names Node := []
  /-- The operations. -/
  operations : Names (Operation Bench.Runner) := []
  /-- The guards that were taken; one that was dropped, or never came about, is nothing. -/
  guards : Names (Option Guard) := []
  /-- The subgraphs that were shown, in the order of their labels. -/
  subgraphs : List (Subgraph Node) := []
  /-- The runners that were shown, in the order of their labels. -/
  runners : List Bench.Runner := []

namespace Session

/-- An action named an object that does not exist. -/
structure UnknownName where
  /-- The name. -/
  name : String
deriving DecidableEq, Repr

/-- A step of a session; one that is refused changes nothing. -/
abbrev Action := StateT Session (Except UnknownName)

/-- An object that has to exist under a name. -/
def known {α : Type} (name : String) : Option α → Action α
  | some a => pure a
  | none => throw ⟨name⟩

/-- The shared state now. -/
def current : Action (World Bench Bench.Runner) := do
  pure (← get).world

/-- Change the shared state. -/
def modifyWorld (f : World Bench Bench.Runner → World Bench Bench.Runner) : Action Unit :=
  modify fun s => { s with world := f s.world }

/-- An operation on the shared state that has a result. -/
def perform {α : Type} (f : World Bench Bench.Runner → α × World Bench Bench.Runner) :
    Action α :=
  modifyGet fun s =>
    let r := f s.world
    (r.1, { s with world := r.2 })

/-! ## Named objects -/

/-- The position of a name, which is added at the end if it is new. -/
def numberOf (names : List String) (name : String) : Nat × List String :=
  match names.findIdx? (· == name) with
  | some i => (i, names)
  | none => (names.length, names ++ [name])

/-- The cache of a name. -/
def cache (name : String) : Action CacheId :=
  modifyGet fun s =>
    let r := numberOf s.caches name
    (⟨r.1⟩, { s with caches := r.2 })

/-- The switch of a name. -/
def switch (name : String) : Action SwitchId :=
  modifyGet fun s =>
    let r := numberOf s.switches name
    (⟨r.1⟩, { s with switches := r.2 })

/-- The number of the gate of a name. -/
def gate (name : String) : Action Nat :=
  modifyGet fun s =>
    let r := numberOf s.gates name
    (r.1, { s with gates := r.2 })

/-- The compiler of a name. -/
def compiler (name : String) : Action Compiler := do
  known name ((← get).compilers.lookup name)

/-- The context of a name. -/
def context (name : String) : Action (Context Bench Bench.Runner Empty) := do
  known name ((← get).contexts.lookup name)

/-- The graph of a name. -/
def graph (name : String) : Action Graph := do
  known name ((← get).graphs.lookup name)

/-- The node of a name. -/
def node (name : String) : Action Node := do
  known name ((← get).nodes.lookup name)

/-- The operation of a name. -/
def operation (name : String) : Action (Operation Bench.Runner) := do
  known name ((← get).operations.lookup name)

/-- The operator table of a name. -/
def operatorTable (name : String) : Action (OperatorTable Bench Bench.Runner) := do
  pure (((← get).operators.lookup name).getD .empty)

/-- The pass table of a name. -/
def passTable (name : String) : Action (PassTable Bench Bench.Runner) := do
  pure (((← get).passes.lookup name).getD .empty)

/-- The stack of a name. -/
def stack (name : String) : Action Stack := do
  pure (((← get).valueStacks.lookup name).getD .empty)

/-- Name a context. -/
def setContext (name : String) (ctx : Context Bench Bench.Runner Empty) : Action Unit :=
  modify fun s => { s with contexts := (name, ctx) :: s.contexts }

/-- Name a graph. -/
def setGraph (name : String) (g : Graph) : Action Unit :=
  modify fun s => { s with graphs := (name, g) :: s.graphs }

/-- Name a node. -/
def setNode (name : String) (n : Node) : Action Unit :=
  modify fun s => { s with nodes := (name, n) :: s.nodes }

/-- Name an operation. -/
def setOperation (name : String) (op : Operation Bench.Runner) : Action Unit :=
  modify fun s => { s with operations := (name, op) :: s.operations }

/-- Name an operator table. -/
def setOperatorTable (name : String) (t : OperatorTable Bench Bench.Runner) : Action Unit :=
  modify fun s => { s with operators := (name, t) :: s.operators }

/-- Name a pass table. -/
def setPassTable (name : String) (t : PassTable Bench Bench.Runner) : Action Unit :=
  modify fun s => { s with passes := (name, t) :: s.passes }

/-- Name a stack. -/
def setStack (name : String) (st : Stack) : Action Unit :=
  modify fun s => { s with valueStacks := (name, st) :: s.valueStacks }

/-! ## Labels -/

/-- The label of a runner. -/
def runnerLabel (r : Bench.Runner) : Action String :=
  modifyGet fun s =>
    match s.runners.findIdx? fun q => q.id == r.id with
    | some i => ("R" ++ toString i, s)
    | none => ("R" ++ toString s.runners.length, { s with runners := s.runners ++ [r] })

/-- The label of a subgraph. -/
def subgraphLabel (g : Subgraph Node) : Action String :=
  modifyGet fun s =>
    match s.subgraphs.findIdx? fun h => h.id == g.id with
    | some i => ("S" ++ toString i, s)
    | none => ("S" ++ toString s.subgraphs.length, { s with subgraphs := s.subgraphs ++ [g] })

/-- The number in a label that starts with a letter. -/
def labelNumber? (letter : Char) (label : String) : Option Nat :=
  match label.toList with
  | c :: digits => if c = letter then natOfText? 10 digits else none
  | [] => none

/-- The runner of a label. -/
def runner (label : String) : Action Bench.Runner := do
  let s ← get
  known label ((labelNumber? 'R' label).bind fun i => s.runners[i]?)

/-- The subgraph of a label. -/
def subgraph (label : String) : Action (Subgraph Node) := do
  let s ← get
  known label ((labelNumber? 'S' label).bind fun i => s.subgraphs[i]?)

/-- The subgraph of a named node, which has to have one. -/
def nodeSubgraph (name : String) : Action (Subgraph Node) := do
  known name (← node name).subgraph

/-- A key as a session shows it: the label of a subgraph that was shown, or the bytes. -/
def keyText (s : Session) (k : Key) : String :=
  match s.subgraphs.findIdx? fun g => Key.identity g.id == k with
  | some i => "S" ++ toString i
  | none => String.ofList (Hex.ofBytes k.bytes)

end Session

end Delegation
