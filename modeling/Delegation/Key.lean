import Delegation.Text.Utf8
import Delegation.Text.Hex
import Delegation.Text.Control
/-!
# Cache keys

A key is an opaque sequence of bytes.  Two kinds of keys are made in practice: the identity key of
a block, eight bytes that encode where the block lives, and the name key of an operator, the UTF-8
bytes of its qualified name.  The cache does not tell them apart.
-/

namespace Delegation

/-- The identity of a block: different blocks that are alive at the same time have different
identities, whatever they contain. -/
structure BlockId where
  /-- The place of the block in memory. -/
  address : UInt64
deriving DecidableEq, Repr

/-- An opaque cache key. -/
structure Key where
  /-- The bytes of the key. -/
  bytes : List UInt8
deriving DecidableEq, Repr

namespace Key

/-- The low `n` bytes of a number, the least significant one first. -/
def littleEndian : Nat → Nat → List UInt8
  | 0, _ => []
  | n + 1, value => UInt8.ofNat (value % 256) :: littleEndian n (value / 256)

/-- The key of a block: its address in eight bytes. -/
def identity (block : BlockId) : Key :=
  ⟨littleEndian 8 block.address.toNat⟩

/-- The key of a qualified operator name. -/
def name (qualified : String) : Key :=
  ⟨Utf8.encode qualified⟩

/-- The number of bytes. -/
def size (k : Key) : Nat :=
  k.bytes.length

/-- Keys are ordered as sequences of bytes. -/
instance : Ord Key where
  compare j k := compare j.bytes k.bytes

/-- Whether a text is shown as it is: not empty and without control characters. -/
def isShowable (text : String) : Bool :=
  !text.isEmpty && !text.toList.any isControl

/-- The text of a key that is shown as text. -/
def text? (k : Key) : Option String :=
  (Utf8.decode? k.bytes).filter isShowable

/-- How a key is shown: its text where it has one that can be shown, its bytes otherwise. -/
def display (k : Key) : String :=
  match k.text? with
  | some text => text
  | none => "0x" ++ String.ofList (Hex.ofBytes k.bytes)

theorem length_littleEndian (n value : Nat) : (littleEndian n value).length = n := by
  induction n generalizing value with
  | zero => rfl
  | succ n ih => simp [littleEndian, ih]

end Key

end Delegation
