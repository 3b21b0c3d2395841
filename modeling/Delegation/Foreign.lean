import Delegation.World
/-!
# The surface for hosts that exchange bytes

Hosts that cannot use keys and texts directly pass buffers of bytes and texts that end in a zero
byte; either may be absent.  They see and evict runners of the process-wide cache, and turn the
process-wide switch.
-/

namespace Delegation.Foreign

/-- A text as bytes without the zero byte that ends it; a text that holds a zero byte has none. -/
def textBytes? (s : String) : Option (List UInt8) :=
  let bytes := Utf8.encode s
  if bytes.contains 0 then none else some bytes

/-- The bytes before the first zero byte. -/
def beforeZero (bytes : List UInt8) : List UInt8 :=
  bytes.takeWhile (· ≠ 0)

/-- The text in a buffer that ends at its first zero byte. -/
def text? (buffer : Option (List UInt8)) : Option String :=
  buffer.bind fun bytes => Utf8.decode? (beforeZero bytes)

/-- The first bytes of a buffer. -/
def bytes? (buffer : Option (List UInt8)) (length : Nat) : Option (List UInt8) :=
  buffer.map fun bytes => bytes.take length

variable {σ ρ : Type}

/-- The number of runners. -/
def cacheSize (w : World σ ρ) : Nat :=
  (w.caches .global).size

/-- Whether there is a runner under the first bytes of a buffer. -/
def contains (buffer : Option (List UInt8)) (length : Nat) (w : World σ ρ) : Bool :=
  match bytes? buffer length with
  | some bytes => (w.caches .global).contains ⟨bytes⟩
  | none => false

/-- Evict the runner under the first bytes of a buffer. -/
def remove (buffer : Option (List UInt8)) (length : Nat) (w : World σ ρ) : Bool × World σ ρ :=
  match bytes? buffer length with
  | some bytes => w.removeKey .global ⟨bytes⟩
  | none => (false, w)

/-- Evict all runners. -/
def clear (w : World σ ρ) : Nat × World σ ρ :=
  w.clearCache .global

/-- Evict the runner preloaded under a name. -/
def removeName (buffer : Option (List UInt8)) (w : World σ ρ) : Bool × World σ ρ :=
  match text? buffer with
  | some name => w.removeKey .global (.name name)
  | none => (false, w)

/-- Turn the switch. -/
def setOverrides (enabled : Bool) (w : World σ ρ) : World σ ρ :=
  w.setSwitch .global enabled

/-- Whether the switch is on. -/
def overridesEnabled (w : World σ ρ) : Bool :=
  w.switches .global

/-- The version of the surface. -/
def version : String := "0.1.0"

end Delegation.Foreign
