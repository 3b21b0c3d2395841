import Delegation.Backend.Interpreter
import Delegation.Backend.Scripted
import Delegation.Passes
/-!
# A bench of observable compilers and runners

The bench keeps a record of everything that its compilers and runners are asked to do: how often
each compiler was called and with what, and how often each runner was executed and under which
handling of SIGINT.  Runners are numbered in the order in which they are built, and two runners are
the same exactly when they have the same number.
-/

namespace Delegation

/-- What a runner of the bench does. -/
inductive Bench.Program where
  /-- Follow a script. -/
  | scripted (behaviour : Scripted.Behaviour)
  /-- Evaluate a block. -/
  | interpreted (block : Block Node)

/-- A runner of the bench. -/
structure Bench.Runner where
  /-- Its number. -/
  id : Nat
  /-- The settings it was built with. -/
  settings : Settings
  /-- What it does. -/
  program : Bench.Program

/-- What is known about a compiler. -/
structure Bench.FactoryRecord where
  /-- The number of calls. -/
  builds : Nat := 0
  /-- The reason with which the compiler currently rejects everything. -/
  failure : Option String := none
  /-- The backend names of the runners that were built. -/
  backends : List String := []
  /-- The host names of the runners that were built. -/
  hosts : List String := []
  /-- The settings of the runners that were built. -/
  settings : List Settings := []

/-- What is known about a runner. -/
structure Bench.RunnerRecord where
  /-- The number of calls of `run`. -/
  runs : Nat := 0
  /-- The number of calls of `runOnly`. -/
  onlyRuns : Nat := 0
  /-- The disposition of SIGINT at each call. -/
  observed : List Disposition := []

/-- The records of the bench. -/
structure Bench where
  /-- The compilers. -/
  factories : Nat → Bench.FactoryRecord := fun _ => {}
  /-- The runners. -/
  runners : Nat → Bench.RunnerRecord := fun _ => {}
  /-- The number of runners that were built. -/
  built : Nat := 0
  /-- The gates of fusion passes. -/
  gates : Nat → Bool := fun _ => false

namespace Bench

/-- Build a runner. -/
def build (settings : Settings) (program : Program) (b : Bench) : Runner × Bench :=
  (⟨b.built, settings, program⟩, { b with built := b.built + 1 })

/-- Change the record of a compiler. -/
def updateFactory (b : Bench) (f : Nat) (change : FactoryRecord → FactoryRecord) : Bench :=
  { b with factories := setAt b.factories f (change (b.factories f)) }

/-- Change the record of a runner. -/
def updateRunner (b : Bench) (r : Nat) (change : RunnerRecord → RunnerRecord) : Bench :=
  { b with runners := setAt b.runners r (change (b.runners r)) }

/-- A compiler of scripted runners, which can be told to reject everything. -/
def scriptedFactory {η : Type} (f : Nat) (behaviour : Scripted.Behaviour) :
    Factory Bench Runner η :=
  fun request b =>
    let b := b.updateFactory f fun r => { r with builds := r.builds + 1 }
    match (b.factories f).failure with
    | some reason => (.failed (.compilation reason), b)
    | none =>
      let b := b.updateFactory f fun r => { r with
        backends := r.backends ++ [request.backend]
        hosts := r.hosts ++ [request.host.name]
        settings := r.settings ++ [request.settings] }
      let made := b.build request.settings (.scripted behaviour)
      (.returned made.1, made.2)

/-- A compiler of interpreting runners. -/
def interpreterFactory {η : Type} (f : Nat) : Factory Bench Runner η :=
  fun request b =>
    let b := b.updateFactory f fun r => { r with builds := r.builds + 1 }
    match Interpreter.accept request.subgraph.block with
    | .error e => (.failed e, b)
    | .ok _ =>
      let made := b.build request.settings (.interpreted request.subgraph.block)
      (.returned made.1, made.2)

/-- Note a call of a runner. -/
def RunnerRecord.note (entry : EntryPoint) (interrupt : Disposition) (r : RunnerRecord) :
    RunnerRecord :=
  match entry with
  | .run => { r with runs := r.runs + 1, observed := r.observed ++ [interrupt] }
  | .runOnly => { r with onlyRuns := r.onlyRuns + 1, observed := r.observed ++ [interrupt] }

/-- The runners of the bench. -/
def engine : Engine Bench Runner where
  settings := Runner.settings
  execute r entry stack w :=
    let noted := w.outside.updateRunner r.id (.note entry w.dispositions.interrupt)
    let result :=
      match r.program with
      | .scripted behaviour => Scripted.run behaviour stack
      | .interpreted block => Interpreter.run block stack
    (result.1, result.2, { w with outside := noted })

/-- A gate of the bench. -/
def gate (i : Nat) : Gate Bench Runner := fun w => w.outside.gates i

/-- A builder of a scripted runner. -/
def scriptedBuilder (settings : Settings) (behaviour : Scripted.Behaviour) :
    Bench → Exit RunError Runner × Bench :=
  fun b =>
    let made := b.build settings (.scripted behaviour)
    (.returned made.1, made.2)

/-- A builder that ends as told, without a runner. -/
def endingBuilder (ending : Exit RunError Empty) : Bench → Exit RunError Runner × Bench :=
  fun b => (ending.map Empty.elim, b)

end Bench

end Delegation
