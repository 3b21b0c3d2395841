import Delegation.Json.Reader
import Delegation.Json.Writer
import Mathlib.Tactic.Common
/-!
# JSON strings are read back as they are written

A character stands for itself, or it is escaped: by a letter, or by the four digits of its code.
Whichever way it is written, it is read as one piece, and that piece is the character
(`Json.readPieces_escape`).  No escape that is written names half of a surrogate pair, not even for
a character that takes two of them elsewhere, so the pieces join to the characters of the text
(`Json.readContent_flatMap_escape`).
-/

namespace Delegation.Json

/-! ### One character -/

lemma readPieces_quote (rest : List Char) : readPieces ('\x22' :: rest) = some ([], rest) := rfl

lemma readPieces_letter {letter c : Char} (hu : letter ≠ 'u') (h : shortEscape? letter = some c)
    (cs : List Char) :
    readPieces ('\x5c' :: letter :: cs) =
      (readPieces cs).map fun r => (.char c :: r.1, r.2) := by
  rw [readPieces]
  · simp only [h]
  · exact fun a b c d rest hletter => absurd hletter hu

lemma readPieces_plain {c : Char} (hquote : c ≠ '\x22') (hslash : c ≠ '\x5c')
    (hcontrol : ¬ c.toNat < 0x20) (cs : List Char) :
    readPieces (c :: cs) = (readPieces cs).map fun r => (.char c :: r.1, r.2) := by
  rw [readPieces]
  · rw [if_neg hcontrol]
  · exact fun h => hquote h
  · exact fun _ _ _ _ _ h => absurd h hslash
  · exact fun _ _ h => absurd h hslash

/-- The four digits of a control character's code stand for that code. -/
lemma toNat?_ofNat_control : ∀ n < 0x20, Hex.toNat? (Hex.ofNat 4 n) = some n := by
  decide

lemma readPieces_code {c : Char} (hcontrol : c.toNat < 0x20) (cs : List Char) :
    readPieces ('\x5c' :: 'u' :: (Hex.ofNat 4 c.toNat ++ cs)) =
      (readPieces cs).map fun r => (.char c :: r.1, r.2) := by
  obtain ⟨d₁, d₂, d₃, d₄, hdigits⟩ : ∃ d₁ d₂ d₃ d₄, Hex.ofNat 4 c.toNat = [d₁, d₂, d₃, d₄] :=
    ⟨_, _, _, _, rfl⟩
  have hcode : hex4? d₁ d₂ d₃ d₄ = some c.toNat := by
    rw [hex4?, ← hdigits]
    exact toNat?_ofNat_control c.toNat hcontrol
  have hpiece : Piece.ofCode c.toNat = .char c := by
    have hhalf : ¬ (0xd800 ≤ c.toNat ∧ c.toNat < 0xe000) := by omega
    rw [Piece.ofCode, if_neg hhalf, Char.ofNat_toNat]
  rw [hdigits]
  simp only [List.cons_append, List.nil_append, readPieces, hcode, hpiece]

/-- **What a character is written as is read as that character.** -/
lemma readPieces_escape (c : Char) (cs : List Char) :
    readPieces (escape c ++ cs) = (readPieces cs).map fun r => (.char c :: r.1, r.2) := by
  rw [escape]
  split_ifs with hquote hslash hback htab hline hform hreturn hcontrol
  · subst hquote; exact readPieces_letter (by decide) rfl cs
  · subst hslash; exact readPieces_letter (by decide) rfl cs
  · subst hback; exact readPieces_letter (by decide) rfl cs
  · subst htab; exact readPieces_letter (by decide) rfl cs
  · subst hline; exact readPieces_letter (by decide) rfl cs
  · subst hform; exact readPieces_letter (by decide) rfl cs
  · subst hreturn; exact readPieces_letter (by decide) rfl cs
  · exact readPieces_code hcontrol cs
  · exact readPieces_plain hquote hslash hcontrol cs

/-! ### A whole string -/

lemma readPieces_flatMap_escape (chars rest : List Char) :
    readPieces (chars.flatMap escape ++ '\x22' :: rest) = some (chars.map .char, rest) := by
  induction chars with
  | nil => exact readPieces_quote rest
  | cons c chars ih =>
    rw [List.flatMap_cons, List.append_assoc, readPieces_escape, ih]
    rfl

lemma joinPieces_map_char (chars : List Char) : joinPieces (chars.map .char) = some chars := by
  induction chars with
  | nil => rfl
  | cons c chars ih =>
    rw [List.map_cons, joinPieces, ih]
    rfl

/-- A string is read back from what is written after its opening quote. -/
lemma readContent_flatMap_escape (s : String) (rest : List Char) :
    readContent (s.toList.flatMap escape ++ '\x22' :: rest) = some (some s, rest) := by
  rw [readContent, readPieces_flatMap_escape]
  simp [joinPieces_map_char]

end Delegation.Json
