import Delegation.Text.Control
import Delegation.Text.Hex
import Mathlib.Tactic.Common
/-!
# Bytes and the digits that write them

Each byte is written with two lower-case digits, the one with the higher value first (`Hex.Writes`).
Bytes have exactly one spelling (`Hex.writes_iff`), and no other bytes have it (`Hex.ofBytes_inj`).
-/

namespace Delegation.Hex

/-! ### Spelling bytes with digits -/

/-- The lower-case digits, each at the place of its value. -/
def lowerDigits : List Char :=
  ['0', '1', '2', '3', '4', '5', '6', '7', '8', '9', 'a', 'b', 'c', 'd', 'e', 'f']

/-- Digits that write bytes: two for each byte, whose values make up the byte. -/
inductive Writes : List UInt8 → List Char → Prop
  | nil : Writes [] []
  | cons {b : UInt8} {x y : Nat} {high low : Char} {bytes : List UInt8} {digits : List Char} :
      lowerDigits[x]? = some high → lowerDigits[y]? = some low → b.toNat = 16 * x + y →
      Writes bytes digits → Writes (b :: bytes) (high :: low :: digits)

lemma getElem?_lowerDigits : ∀ n < 16, lowerDigits[n]? = some (digit n) := by
  decide

lemma eq_digit_of_getElem? {n : Nat} {c : Char} (h : lowerDigits[n]? = some c) :
    n < 16 ∧ c = digit n := by
  obtain ⟨hn, -⟩ := List.getElem?_eq_some_iff.mp h
  have hn : n < 16 := hn
  rw [getElem?_lowerDigits n hn, Option.some.injEq] at h
  exact ⟨hn, h.symm⟩

lemma ofBytes_cons (b : UInt8) (bytes : List UInt8) :
    ofBytes (b :: bytes) = digit (b.toNat / 16) :: digit (b.toNat % 16) :: ofBytes bytes := by
  simp [ofBytes, ofByte]

lemma writes_ofBytes (bytes : List UInt8) : Writes bytes (ofBytes bytes) := by
  induction bytes with
  | nil => exact .nil
  | cons b bytes ih =>
    have hb : b.toNat < 256 := b.toNat_lt
    rw [ofBytes_cons]
    exact .cons (getElem?_lowerDigits _ (by omega)) (getElem?_lowerDigits _ (by omega))
      (by omega) ih

lemma Writes.eq_ofBytes {bytes : List UInt8} {digits : List Char} (h : Writes bytes digits) :
    digits = ofBytes bytes := by
  induction h with
  | nil => rfl
  | @cons b x y _ _ _ _ hhigh hlow hb _ ih =>
    obtain ⟨hx, rfl⟩ := eq_digit_of_getElem? hhigh
    obtain ⟨hy, rfl⟩ := eq_digit_of_getElem? hlow
    -- the values are the two halves of the byte, as both are below sixteen
    have hquotient : b.toNat / 16 = x := by omega
    have hremainder : b.toNat % 16 = y := by omega
    rw [ofBytes_cons, hquotient, hremainder, ih]

/-- **Bytes have one spelling.** -/
lemma writes_iff {bytes : List UInt8} {digits : List Char} :
    Writes bytes digits ↔ digits = ofBytes bytes := by
  constructor
  · exact Writes.eq_ofBytes
  · rintro rfl
    exact writes_ofBytes bytes

/-! ### Reading bytes back -/

lemma digitValue?_digit : ∀ n < 16, digitValue? (digit n) = some n := by
  decide

lemma toBytes?_ofBytes (bytes : List UInt8) : toBytes? (ofBytes bytes) = some bytes := by
  induction bytes with
  | nil => rfl
  | cons b bytes ih =>
    have hb : b.toNat < 256 := b.toNat_lt
    have hhigh := digitValue?_digit (b.toNat / 16) (by omega)
    have hlow := digitValue?_digit (b.toNat % 16) (by omega)
    have hbyte : 16 * (b.toNat / 16) + b.toNat % 16 = b.toNat := by omega
    rw [ofBytes_cons, toBytes?, hhigh, hlow, ih]
    show some (UInt8.ofNat (16 * (b.toNat / 16) + b.toNat % 16) :: bytes) = some (b :: bytes)
    rw [hbyte, UInt8.ofNat_toNat]

/-- **Different bytes have different spellings.** -/
lemma ofBytes_inj {a b : List UInt8} : ofBytes a = ofBytes b ↔ a = b := by
  constructor
  · intro h
    have hread := toBytes?_ofBytes a
    rw [h, toBytes?_ofBytes, Option.some.injEq] at hread
    exact hread.symm
  · rintro rfl
    rfl

/-! ### What the spelling looks like -/

lemma length_ofBytes (bytes : List UInt8) : (ofBytes bytes).length = 2 * bytes.length := by
  induction bytes with
  | nil => rfl
  | cons b bytes ih =>
    rw [ofBytes_cons]
    simp only [List.length_cons, ih]
    omega

lemma isControl_digit : ∀ n < 16, isControl (digit n) = false := by
  decide

lemma isControl_of_mem_ofBytes {bytes : List UInt8} {c : Char} (h : c ∈ ofBytes bytes) :
    isControl c = false := by
  obtain ⟨b, -, hc⟩ := List.mem_flatMap.mp h
  have hb : b.toNat < 256 := b.toNat_lt
  simp only [ofByte, List.mem_cons, List.not_mem_nil, or_false] at hc
  rcases hc with rfl | rfl
  · exact isControl_digit _ (by omega)
  · exact isControl_digit _ (by omega)

end Delegation.Hex
