import Delegation.Session.Basic
/-!
# What can be done in a session

The actions that involve more than one object, or an object and its name.
-/

namespace Delegation.Session

/-! ## Compilers and caches -/

/-- Make a compiler whose runners follow a script, or one of interpreting runners. -/
def addCompiler (name : String) (script : Option Scripted.Behaviour) : Action Unit :=
  modify fun s =>
    let id := s.compilerCount
    let made : Compiler :=
      match script with
      | some behaviour => ⟨id, true, Bench.scriptedFactory id behaviour⟩
      | none => ⟨id, false, Bench.interpreterFactory id⟩
    { s with compilers := (name, made) :: s.compilers, compilerCount := id + 1 }

/-- Make a compiler reject everything, or let it accept again. -/
def setFailure (name : String) (reason : Option String) : Action Unit := do
  let c ← compiler name
  modifyWorld fun w =>
    { w with outside := w.outside.updateFactory c.id fun r => { r with failure := reason } }

/-- The runners in a cache. -/
def cached (c : CacheId) : Action (Cache Bench.Runner) := do
  pure ((← current).caches c)

/-- The runner under a key, and whether it had to be built. -/
def insertRunner (c : CacheId) (k : Key) (build : Bench → Exit RunError Bench.Runner × Bench) :
    Action (Exit RunError Bench.Runner × Bool) :=
  perform fun w =>
    let r := w.getOrInsert c k build
    ((r.1, !(w.caches c).contains k), r.2)

/-- What callers that ask for the same keys at once find. -/
structure Contest where
  /-- The number of runners that were built. -/
  built : Nat
  /-- Whether all callers for a key got one runner. -/
  agreed : Bool
  /-- The size of the cache afterwards. -/
  size : Nat

/-- Several callers ask for a key, one after the other; what they got. -/
def callers (c : CacheId) (k : Key) : Nat → Action (List (Exit RunError Bench.Runner × Bool))
  | 0 => pure []
  | n + 1 => do
    let first ← insertRunner c k (Bench.scriptedBuilder {} .negate)
    let rest ← callers c k n
    pure (first :: rest)

/-- Whether callers all got one runner. -/
def allSame (results : List (Exit RunError Bench.Runner × Bool)) : Bool :=
  match results.map fun r => r.1.value?.map Bench.Runner.id with
  | [] => true
  | some i :: rest => rest.all (· == some i)
  | none :: _ => false

/-- For each key, several callers ask for it at once.  The cache lets one of them in at a time. -/
def contest (c : CacheId) (threads : Nat) (keys : List Key) : Action Contest := do
  let results ← keys.mapM fun k => callers c k threads
  let built := (results.flatten.filter fun r => r.2).length
  pure ⟨built, results.all allSame, ((← current).caches c).size⟩

/-- The keys of a cache as a session shows them, in the order of their texts. -/
def keyTexts (c : CacheId) : Action (List String) := do
  let s ← get
  pure (((s.world.caches c).keys.map (keyText s)).mergeSort fun a b => decide (a ≤ b))

/-! ## Graphs -/

/-- A node whose subgraph, if it has one, is known by its label. -/
inductive NodeView where
  /-- The kind, the inputs and outputs, and what is shown of the subgraph. -/
  | mk (kind : Symbol) (inputs outputs : List ValueId)
    (subgraph : Option (String × Block NodeView))

mutual

/-- Show a node; its own subgraph gets its label before those in the block. -/
def viewNode : Node → Action NodeView
  | ⟨kind, inputs, outputs, none⟩ => pure (.mk kind inputs outputs none)
  | ⟨kind, inputs, outputs, some ⟨id, ⟨params, nodes, gives⟩⟩⟩ => do
    let label ← subgraphLabel ⟨id, ⟨params, nodes, gives⟩⟩
    let inner ← viewNodes nodes
    pure (.mk kind inputs outputs (some (label, ⟨params, inner, gives⟩)))

/-- Show several nodes in order. -/
def viewNodes : List Node → Action (List NodeView)
  | [] => pure []
  | n :: ns => do
    let v ← viewNode n
    let vs ← viewNodes ns
    pure (v :: vs)

end

/-- Fuse a named graph in place; the number of fusion nodes created. -/
def fuse (name : String) (f : KindFuser) (kind : Symbol) : Action (Nat × Graph) := do
  let g ← graph name
  let r ← perform fun w =>
    let r := f.fuse kind g w.blocks
    (r, { w with blocks := r.supply })
  setGraph name r.graph
  pure (r.count, r.graph)

/-- Run a pass table over a named graph in place. -/
def runPasses (name : String) (t : PassTable Bench Bench.Runner) : Action Graph := do
  let g ← graph name
  let after ← perform (t.runAll g)
  setGraph name after
  pure after

/-! ## Contexts and tables -/

/-- What is shown of a context. -/
structure ContextInfo where
  /-- The context. -/
  context : Context Bench Bench.Runner Empty
  /-- The settings in force. -/
  settings : Settings
  /-- Whether its switch is on. -/
  overrides : Bool
  /-- The number of runners in its cache. -/
  cacheSize : Nat

/-- What is shown of a context now. -/
def contextInfo (ctx : Context Bench Bench.Runner Empty) : Action ContextInfo := do
  let w ← current
  pure ⟨ctx, ctx.settings w, w.switches ctx.switch, (w.caches ctx.cache).size⟩

/-- Make a context and name it. -/
def addContext (name : String) (spec : Context.Spec Bench Bench.Runner Empty) :
    Action ContextInfo := do
  let ctx ← perform (Context.make spec)
  setContext name ctx
  contextInfo ctx

/-- Install into named tables; on success the context gets a name. -/
def install (name operators passes : String) (i : Installation Bench Bench.Runner Empty) :
    Action (Except SetupError ContextInfo × HostTables Bench Bench.Runner) := do
  let before : HostTables Bench Bench.Runner := ⟨← operatorTable operators, ← passTable passes⟩
  let (result, after) ← perform fun w =>
    let r := i.install before w
    ((r.1, r.2.1), r.2.2)
  setOperatorTable operators after.operators
  setPassTable passes after.passes
  match result with
  | .ok ctx =>
    setContext name ctx
    pure (.ok (← contextInfo ctx), after)
  | .error e => pure (.error e, after)

/-- Change a named operator table, if the change succeeds. -/
def changeOperators (name : String)
    (change : OperatorTable Bench Bench.Runner →
      Except SetupError (OperatorTable Bench Bench.Runner)) :
    Action (Except SetupError Unit × OperatorTable Bench Bench.Runner) := do
  let before ← operatorTable name
  match change before with
  | .ok after =>
    setOperatorTable name after
    pure (.ok (), after)
  | .error e => pure (.error e, before)

/-- Register a delegated operator and its fusion pass in named tables. -/
def registerFusionOperator (operators passes : String) (ctx : Context Bench Bench.Runner Empty)
    (f : KindFuser) (kind : Symbol) (gate : Nat) :
    Action (Except SetupError Unit × HostTables Bench Bench.Runner) := do
  let before : HostTables Bench Bench.Runner := ⟨← operatorTable operators, ← passTable passes⟩
  match before.registerFusionOperator ctx f.fuse kind (Bench.gate gate) with
  | .ok after =>
    setOperatorTable operators after.operators
    setPassTable passes after.passes
    pure (.ok (), after)
  | .error e => pure (.error e, before)

/-- The factory of an operator of the host's own: it fails with a reason, or gives an operation that
pushes values. -/
def nativeFactory (pushes : List Value) (reason : Option String) :
    OperationFactory Bench Bench.Runner := fun n w =>
  match reason with
  | some text => (.failed ⟨.invalidArgument, n.kind.qualified ++ ": " ++ text⟩, w)
  | none => (.returned (.native fun s => (.returned (), s.pushAll pushes)), w)

/-- Change a named pass table; the number of passes afterwards. -/
def addPass (name : String) (pass : Pass Bench Bench.Runner) : Action Nat := do
  let after := (← passTable name).register pass
  setPassTable name after
  pure after.size

/-- Append a fusion pass to a named pass table; the number of passes afterwards. -/
def addFusionPass (name : String) (f : KindFuser) (kind : Symbol) (gate : Nat) : Action Nat := do
  let after := (← passTable name).registerFusion f.fuse kind (Bench.gate gate)
  setPassTable name after
  pure after.size

/-- Open or close a gate. -/
def setGate (name : String) (opened : Bool) : Action Unit := do
  let i ← gate name
  modifyWorld fun w =>
    { w with outside := { w.outside with gates := setAt w.outside.gates i opened } }

/-! ## Operations and guards -/

/-- Make the operation for a node and name it. -/
def createOperation (name : String) (make : OperationFactory Bench Bench.Runner) (n : Node) :
    Action (Exit HostException (Operation Bench.Runner)) := do
  let r ← perform (make n)
  match r with
  | .returned op => setOperation name op
  | _ => pure ()
  pure r

/-- Run a named operation on a named stack. -/
def invoke (name stackName : String) : Action (Exit HostException Unit × Stack) := do
  let op ← operation name
  let s ← stack stackName
  let r ← perform fun w =>
    let r := op.invoke Bench.engine s w
    ((r.1, r.2.1), r.2.2)
  setStack stackName r.2
  pure r

/-- Name a guard; what had the name before is dropped. -/
def setGuard (name : String) (held : Option Guard) : Action (Option Guard) := do
  let old := ((← get).guards.lookup name).getD none
  modify fun s => { s with guards := (name, held) :: s.guards, world := s.world.release old }
  pure old

/-- Take a guard and name it; whether the switch was on.  If it is off, a guard that has the name
already stays. -/
def acquire (name : String) (s : SwitchId) : Action Bool := do
  match ← perform fun w => w.acquire s with
  | some g =>
    let _ ← setGuard name (some g)
    pure true
  | none => pure false

/-- Drop a named guard; whether there was one. -/
def release (name : String) : Action Bool := do
  pure (← setGuard name none).isSome

/-- Set the disposition of a signal. -/
def setDisposition (s : Signal) (d : Disposition) : Action Unit :=
  modifyWorld fun w => { w with dispositions := w.dispositions.set s d }

end Delegation.Session
