import Delegation.Text.Utf8
import Mathlib.Tactic.Common
/-!
# Well-formed UTF-8

Bytes are well-formed when they are those of some characters, written one after the other.  Exactly
such bytes are read as a text (`Utf8.exists_decode?_iff`).  The zero byte writes the zero character
and is a part of no other one (`Utf8.zero_mem_encode_iff`).
-/

namespace Delegation.Utf8

/-- Bytes that are those of some characters, one after the other. -/
def WellFormed (bytes : List UInt8) : Prop :=
  ∃ chars : List Char, bytes = chars.flatMap String.utf8EncodeChar

/-- A text is written character by character. -/
lemma encode_eq_flatMap (s : String) : encode s = s.toList.flatMap String.utf8EncodeChar := by
  conv_lhs => rw [← String.ofList_toList (s := s)]
  exact List.toList_data_toByteArray

lemma wellFormed_encode (s : String) : WellFormed (encode s) :=
  ⟨s.toList, encode_eq_flatMap s⟩

/-- **Exactly the well-formed bytes are read.** -/
lemma exists_decode?_iff {bytes : List UInt8} : (∃ s, decode? bytes = some s) ↔ WellFormed bytes := by
  constructor
  · rintro ⟨s, hs⟩
    rw [decode?_eq_some_iff.mp hs]
    exact wellFormed_encode s
  · rintro ⟨chars, rfl⟩
    refine ⟨String.ofList chars, decode?_eq_some_iff.mpr ?_⟩
    rw [encode_eq_flatMap, String.toList_ofList]

/-- No character is written without bytes. -/
lemma length_toList_le_length_encode (s : String) : s.toList.length ≤ (encode s).length := by
  rw [encode_eq_flatMap]
  induction s.toList with
  | nil => simp
  | cons c chars ih =>
    have hc : 0 < c.utf8Size := c.utf8Size_pos
    rw [List.flatMap_cons, List.length_append, List.length_cons, String.length_utf8EncodeChar]
    omega

lemma encode_eq_nil_iff {s : String} : encode s = [] ↔ s = "" := by
  constructor
  · intro h
    have hlength := length_toList_le_length_encode s
    rw [h, List.length_nil, Nat.le_zero, List.length_eq_zero_iff] at hlength
    exact String.toList_eq_nil_iff.mp hlength
  · rintro rfl
    rfl

/-- All bytes of a character that takes more than one are marked by their first bit. -/
lemma zero_mem_encodeChar_iff (c : Char) : (0 : UInt8) ∈ String.utf8EncodeChar c ↔ c = '\x00' := by
  have hchar : c = '\x00' ↔ c.val.toNat = 0 := by
    rw [← Char.toNat_inj]
    rfl
  have hbyte (n : Nat) : (0 : UInt8) = UInt8.ofNat n ↔ n % 256 = 0 := by
    rw [← UInt8.toNat_inj, UInt8.toNat_ofNat', eq_comm]
    rfl
  rw [hchar, String.utf8EncodeChar]
  -- one case for each number of bytes
  split_ifs <;> simp only [List.mem_cons, List.not_mem_nil, or_false, hbyte] <;> omega

lemma zero_mem_encode_iff (s : String) : (0 : UInt8) ∈ encode s ↔ '\x00' ∈ s.toList := by
  rw [encode_eq_flatMap, List.mem_flatMap]
  constructor
  · rintro ⟨c, hc, hzero⟩
    rwa [(zero_mem_encodeChar_iff c).mp hzero] at hc
  · intro hc
    exact ⟨'\x00', hc, (zero_mem_encodeChar_iff _).mpr rfl⟩

end Delegation.Utf8
