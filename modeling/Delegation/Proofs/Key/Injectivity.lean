import Delegation.Key
import Mathlib.Algebra.Ring.Nat
/-!
# Which keys coincide

Different blocks have different identity keys and different names have different name keys.  An
identity key and a name key are the same only when the name is written with the eight bytes of the
address.
-/

namespace Delegation.Key

/-! ### The bytes of a number -/

/-- The number written by bytes, the least significant one first. -/
def ofLittleEndian : List UInt8 → Nat
  | [] => 0
  | b :: bytes => b.toNat + 256 * ofLittleEndian bytes

/-- The bytes of a number keep as much of it as they have room for. -/
lemma ofLittleEndian_littleEndian (n value : Nat) :
    ofLittleEndian (littleEndian n value) = value % 256 ^ n := by
  induction n generalizing value with
  | zero => simp [littleEndian, ofLittleEndian, Nat.mod_one]
  | succ n ih =>
    have hbyte : (UInt8.ofNat (value % 256)).toNat = value % 256 := by
      rw [UInt8.toNat_ofNat']
      exact Nat.mod_eq_of_lt (Nat.mod_lt _ (by omega))
    rw [littleEndian, ofLittleEndian, hbyte, ih, Nat.pow_succ', Nat.mod_mul]

/-- No bytes are lost in the number that they write. -/
lemma littleEndian_ofLittleEndian (bytes : List UInt8) :
    littleEndian bytes.length (ofLittleEndian bytes) = bytes := by
  induction bytes with
  | nil => rfl
  | cons b bytes ih =>
    have hb : b.toNat < 256 := b.toNat_lt
    have hlow : (b.toNat + 256 * ofLittleEndian bytes) % 256 = b.toNat := by omega
    have hhigh : (b.toNat + 256 * ofLittleEndian bytes) / 256 = ofLittleEndian bytes := by omega
    rw [List.length_cons, ofLittleEndian, littleEndian, hlow, hhigh, ih, UInt8.ofNat_toNat]

/-! ### Identity keys and name keys -/

lemma size_identity (block : BlockId) : (identity block).size = 8 :=
  length_littleEndian 8 _

/-- Different blocks have different keys. -/
theorem identity_injective : Function.Injective identity := by
  rintro ⟨a⟩ ⟨b⟩ h
  have hbytes : littleEndian 8 a.toNat = littleEndian 8 b.toNat := congrArg bytes h
  have hnat : a.toNat % 256 ^ 8 = b.toNat % 256 ^ 8 := by
    rw [← ofLittleEndian_littleEndian, ← ofLittleEndian_littleEndian, hbytes]
  have ha : a.toNat < 256 ^ 8 := a.toNat_lt
  have hb : b.toNat < 256 ^ 8 := b.toNat_lt
  rw [Nat.mod_eq_of_lt ha, Nat.mod_eq_of_lt hb] at hnat
  rw [UInt64.toNat_inj.mp hnat]

/-- Different names have different keys. -/
theorem name_injective : Function.Injective name := by
  intro p q h
  exact Utf8.encode_injective (congrArg bytes h)

/-- A block and a name share a key only through the bytes of the name. -/
lemma identity_eq_name_iff {block : BlockId} {q : String} :
    identity block = name q ↔ (identity block).bytes = Utf8.encode q := by
  constructor
  · intro h
    rw [h, name]
  · intro h
    rw [name, ← h]

/-- A block and a name share a key exactly if the name is written with eight bytes and these write
the address of the block. -/
lemma identity_eq_name_iff_writes {block : BlockId} {q : String} :
    identity block = name q ↔
      (Utf8.encode q).length = 8 ∧ ofLittleEndian (Utf8.encode q) = block.address.toNat := by
  have haddress : block.address.toNat < 256 ^ 8 := block.address.toNat_lt
  rw [identity_eq_name_iff]
  constructor
  · intro h
    rw [← h]
    refine ⟨size_identity block, ?_⟩
    rw [identity, ofLittleEndian_littleEndian, Nat.mod_eq_of_lt haddress]
  · rintro ⟨hlength, hvalue⟩
    rw [identity, ← hvalue, ← hlength, littleEndian_ofLittleEndian]

end Delegation.Key
