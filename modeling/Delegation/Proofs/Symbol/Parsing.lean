import Delegation.Symbol
import Mathlib.Tactic.Common
/-!
# Reading qualified texts

A text that is read as a symbol is the qualified text of that symbol (`Symbol.qualified_of_parse`),
and a text that is not read is refused with itself (`Symbol.parse_of_not_read`).
-/

namespace Delegation.Symbol

/-- The two halves of a split stand on either side of a double colon. -/
lemma eq_of_splitFirst {cs before after : List Char} (h : splitFirst cs = some (before, after)) :
    cs = before ++ ':' :: ':' :: after := by
  fun_induction splitFirst cs generalizing before with
  | case1 rest =>
    cases h
    rfl
  | case2 c rest _ ih =>
    obtain ⟨⟨before, rest'⟩, hrest, heq⟩ := Option.map_eq_some_iff.mp h
    cases heq
    rw [ih hrest, List.cons_append]
  | case3 => cases h

/-- **Reading and writing qualified texts**: a symbol that was read is written as it was. -/
lemma qualified_of_parse {text : String} {s : Symbol} (h : parse text = .ok s) :
    s.qualified = text := by
  rw [parse] at h
  split at h
  · rename_i a as b bs hsplit
    cases h
    have hcolons : "::".toList = [':', ':'] := by decide
    apply String.toList_injective
    simp only [qualified, String.toList_append, String.toList_ofList, hcolons,
      eq_of_splitFirst hsplit, List.append_assoc, List.cons_append, List.nil_append]
  · cases h

/-- A text that is not read is named in the fault. -/
lemma parse_of_not_read {text : String} (h : ¬ ∃ s, parse text = .ok s) :
    parse text = .error (.invalidSymbol text) := by
  cases hparse : parse text with
  | ok s => exact absurd ⟨s, hparse⟩ h
  | error fault =>
    rw [parse] at hparse
    split at hparse
    · cases hparse
    · cases hparse
      rfl

end Delegation.Symbol
