import Delegation.Cache
import Delegation.Graph.Basic
import Delegation.RunError
import Delegation.Settings
import Delegation.Signals
/-!
# The shared state

Contexts, operations and tables share mutable state: caches, override switches, the settings that
a context currently has, the signal dispositions of the process, and the identities that are left
for new blocks.  All of it is one value, together with a state `σ` that belongs to outside code
and a type `ρ` of runners, about which nothing is assumed.

Caches, switches and contexts are named by numbers.  A cache that nobody has used is empty, and a
switch that nobody has turned is on.
-/

namespace Delegation

/-- The name of a cache. -/
structure CacheId where
  /-- Its number. -/
  number : Nat
deriving DecidableEq, Repr

/-- The cache of the process. -/
def CacheId.global : CacheId := ⟨0⟩

/-- The name of an override switch. -/
structure SwitchId where
  /-- Its number. -/
  number : Nat
deriving DecidableEq, Repr

/-- The override switch of the process. -/
def SwitchId.global : SwitchId := ⟨0⟩

/-- The name of a context. -/
structure ContextId where
  /-- Its number. -/
  number : Nat
deriving DecidableEq, Repr

/-- A function changed at one place. -/
def setAt {ι α : Type} [DecidableEq ι] (f : ι → α) (i : ι) (a : α) : ι → α :=
  fun j => if j = i then a else f j

@[simp] theorem setAt_self {ι α : Type} [DecidableEq ι] (f : ι → α) (i : ι) (a : α) :
    setAt f i a i = a := by
  simp [setAt]

theorem setAt_of_ne {ι α : Type} [DecidableEq ι] (f : ι → α) {i j : ι} (a : α) (h : j ≠ i) :
    setAt f i a j = f j := by
  simp [setAt, h]

/-- The shared state. -/
structure World (σ ρ : Type) where
  /-- The caches. -/
  caches : CacheId → Cache ρ
  /-- The override switches. -/
  switches : SwitchId → Bool
  /-- The settings in force, by context. -/
  settings : ContextId → Settings
  /-- The number of contexts that were made. -/
  contexts : Nat
  /-- The signal dispositions of the process. -/
  dispositions : Dispositions
  /-- The identities that are left for new blocks. -/
  blocks : BlockSupply
  /-- The state of outside code. -/
  outside : σ

namespace World

variable {σ ρ ε : Type}

/-- The state before anything happened. -/
def start (blocks : BlockSupply) (outside : σ) : World σ ρ where
  caches _ := Cache.empty
  switches _ := true
  settings _ := {}
  contexts := 0
  dispositions := {}
  blocks := blocks
  outside := outside

/-- Change a cache. -/
def setCache (w : World σ ρ) (c : CacheId) (cache : Cache ρ) : World σ ρ :=
  { w with caches := setAt w.caches c cache }

/-- Turn a switch. -/
def setSwitch (w : World σ ρ) (s : SwitchId) (enabled : Bool) : World σ ρ :=
  { w with switches := setAt w.switches s enabled }

/-- The runner under a key of a cache, built and added if there is none. -/
def getOrInsert (w : World σ ρ) (c : CacheId) (k : Key) (build : σ → Exit ε ρ × σ) :
    Exit ε ρ × World σ ρ :=
  let r := (w.caches c).getOrInsert k build w.outside
  (r.1, { w.setCache c r.2.1 with outside := r.2.2 })

/-- Remove a key from a cache; whether it was there. -/
def removeKey (w : World σ ρ) (c : CacheId) (k : Key) : Bool × World σ ρ :=
  ((w.caches c).contains k, w.setCache c ((w.caches c).erase k))

/-- Remove all keys of a cache; how many there were. -/
def clearCache (w : World σ ρ) (c : CacheId) : Nat × World σ ρ :=
  ((w.caches c).size, w.setCache c Cache.empty)

/-- Take a guard if a switch is on. -/
def acquire (w : World σ ρ) (s : SwitchId) : Option Guard × World σ ρ :=
  if w.switches s then
    let g := Guard.install w.dispositions
    (some g.1, { w with dispositions := g.2 })
  else (none, w)

/-- Drop a guard, if there is one. -/
def release (w : World σ ρ) : Option Guard → World σ ρ
  | some g => { w with dispositions := g.release w.dispositions }
  | none => w

/-- Make a block into a subgraph with a new identity. -/
def newSubgraph (w : World σ ρ) (block : Block Node) : Subgraph Node × World σ ρ :=
  let made := w.blocks.subgraph block
  (made.1, { w with blocks := made.2 })

end World

end Delegation
