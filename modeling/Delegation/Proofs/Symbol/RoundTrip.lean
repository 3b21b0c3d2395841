import Delegation.Proofs.Symbol.Parsing
import Mathlib.Data.List.Infix
/-!
# Which qualified texts are read back

A text is read as a symbol by cutting it at its first double colon.  What this says about texts,
without the function that looks for the cut, is `Symbol.FirstColons`, and `Symbol.parse_eq_ok_iff`
states that reading is just this.

The other direction asks which symbols are read back from their own texts.  The joint of such a
text may be preceded by another double colon, also by one that a colon at the end of the namespace
forms with the first colon of the joint; `splitFirst_join_iff` excludes both.  A colon at the start
of the name does no harm, as the cut is made as far to the left as can be.  The main statement
is `Symbol.parse_roundTrip`.
-/

namespace Delegation.Symbol

/-! ### The first double colon -/

/-- The first double colon of a text stands between `before` and `after`. -/
structure FirstColons (text before after : String) : Prop where
  joined : text = before ++ "::" ++ after
  leftmost : ∀ before' after', text = before' ++ "::" ++ after' → before.length ≤ before'.length

lemma splitFirst_cons {c d : Char} (h : ¬ (c = ':' ∧ d = ':')) (cs : List Char) :
    splitFirst (c :: d :: cs) = (splitFirst (d :: cs)).map fun p => (c :: p.1, p.2) := by
  rw [splitFirst]
  rintro rest rfl hrest
  cases hrest
  exact h ⟨rfl, rfl⟩

/-- Where a double colon stands, a cut is found, and not to the right of it. -/
lemma exists_splitFirst (before after : List Char) :
    ∃ p, splitFirst (before ++ ':' :: ':' :: after) = some p ∧ p.1.length ≤ before.length := by
  induction before with
  | nil => exact ⟨([], after), rfl, le_rfl⟩
  | cons c before ih =>
    obtain ⟨p, hp, hlength⟩ := ih
    obtain ⟨d, cs, hcs⟩ : ∃ d cs, before ++ ':' :: ':' :: after = d :: cs :=
      List.exists_cons_of_ne_nil (by simp)
    rw [hcs] at hp
    rw [List.cons_append, hcs]
    by_cases hcolons : c = ':' ∧ d = ':'
    · obtain ⟨rfl, rfl⟩ := hcolons
      exact ⟨([], cs), rfl, Nat.zero_le _⟩
    · rw [splitFirst_cons hcolons, hp]
      exact ⟨(c :: p.1, p.2), rfl, Nat.succ_le_succ hlength⟩

/-- The cut is the one double colon that has none to its left. -/
lemma splitFirst_eq_some_iff {cs before after : List Char} :
    splitFirst cs = some (before, after) ↔
      cs = before ++ ':' :: ':' :: after ∧
        ∀ before' after', cs = before' ++ ':' :: ':' :: after' →
          before.length ≤ before'.length := by
  constructor
  · intro h
    refine ⟨eq_of_splitFirst h, ?_⟩
    rintro before' after' rfl
    obtain ⟨p, hp, hlength⟩ := exists_splitFirst before' after'
    rw [hp] at h
    cases h
    exact hlength
  · rintro ⟨rfl, hleft⟩
    obtain ⟨⟨before', after'⟩, hp, hlength⟩ := exists_splitFirst before after
    -- Two cuts of one text at the same distance from its start are the same.
    have hsame : before.length = before'.length :=
      le_antisymm (hleft before' after' (eq_of_splitFirst hp)) hlength
    obtain ⟨rfl, htail⟩ := List.append_inj (eq_of_splitFirst hp) hsame
    cases htail
    exact hp

/-- A joined text is cut at its joint exactly if the first part holds no double colon and does not
end in a colon. -/
lemma splitFirst_join_iff (before after : List Char) :
    splitFirst (before ++ ':' :: ':' :: after) = some (before, after) ↔
      ¬ [':', ':'] <:+: before ∧ ¬ [':'] <:+ before := by
  induction before with
  | nil => simp [splitFirst]
  | cons c before ih =>
    cases before with
    | nil =>
      by_cases hc : c = ':'
      · subst hc
        simp [splitFirst]
      · have hcut : splitFirst (c :: ':' :: ':' :: after) = some ([c], after) := by
          simp [splitFirst, hc]
        have hwithin : ¬ [':', ':'] <:+: [c] := fun h => by simpa using h.length_le
        simp [hcut, hwithin, List.suffix_cons_iff, Ne.symm hc]
    | cons d before =>
      by_cases hcolons : c = ':' ∧ d = ':'
      · obtain ⟨rfl, rfl⟩ := hcolons
        have hwithin : [':', ':'] <:+: ':' :: ':' :: before := ⟨[], before, rfl⟩
        simp [splitFirst, hwithin]
      · have hprefix : ¬ [':', ':'] <+: c :: d :: before := by
          simpa [List.cons_prefix_cons, eq_comm] using hcolons
        have hwithin : [':', ':'] <:+: c :: d :: before ↔ [':', ':'] <:+: d :: before := by
          rw [List.infix_cons_iff, or_iff_right hprefix]
        have hsuffix : [':'] <:+ c :: d :: before ↔ [':'] <:+ d :: before := by
          rw [List.suffix_cons_iff, or_iff_right (by simp)]
        rw [hwithin, hsuffix, ← ih]
        simp only [List.cons_append, splitFirst_cons hcolons, Option.map_eq_some_iff]
        simp [Prod.ext_iff]

/-! ### Texts and characters -/

lemma toList_join (before after : String) :
    (before ++ "::" ++ after).toList = before.toList ++ ':' :: ':' :: after.toList := by
  have hcolons : "::".toList = [':', ':'] := by decide
  simp [String.toList_append, hcolons]

lemma firstColons_iff {text before after : String} :
    FirstColons text before after ↔
      splitFirst text.toList = some (before.toList, after.toList) := by
  have hjoined : ∀ before after : String, text = before ++ "::" ++ after ↔
      text.toList = before.toList ++ ':' :: ':' :: after.toList := by
    intro before after
    rw [← toList_join, String.toList_inj]
  rw [splitFirst_eq_some_iff, ← hjoined]
  constructor
  · rintro ⟨h, hleft⟩
    refine ⟨h, fun before' after' h' => ?_⟩
    have hlength := hleft (String.ofList before') (String.ofList after')
      ((hjoined _ _).mpr (by simpa using h'))
    simpa [← String.length_toList] using hlength
  · rintro ⟨h, hleft⟩
    refine ⟨h, fun before' after' h' => ?_⟩
    simpa [← String.length_toList] using hleft _ _ ((hjoined _ _).mp h')

/-- **Reading cuts at the first double colon**, and wants something on both sides of it. -/
lemma parse_eq_ok_iff {text : String} {s : Symbol} :
    parse text = .ok s ↔ FirstColons text s.space s.name ∧ s.space ≠ "" ∧ s.name ≠ "" := by
  have hempty : ∀ t : String, t = "" ↔ t.toList = [] := fun t => String.toList_eq_nil_iff.symm
  rw [firstColons_iff, ne_eq, ne_eq, hempty, hempty, parse]
  constructor
  · intro h
    split at h
    · rename_i a as b bs hsplit
      cases h
      simp [hsplit]
    · cases h
  · rintro ⟨hsplit, hspace, hname⟩
    obtain ⟨a, as, hspace⟩ := List.exists_cons_of_ne_nil hspace
    obtain ⟨b, bs, hname⟩ := List.exists_cons_of_ne_nil hname
    rw [hsplit, hspace, hname]
    simp [← hspace, ← hname]

/-! ### Symbols and their texts -/

/-- A symbol is read back from its text exactly if reading cuts the text at its joint. -/
lemma parse_qualified_iff (s : Symbol) :
    parse s.qualified = .ok s ↔
      s.space ≠ "" ∧ s.name ≠ "" ∧ (¬ ∃ before after, s.space = before ++ "::" ++ after) ∧
        ¬ ∃ before, s.space = before ++ ":" := by
  have hwithin : (∃ before after, s.space = before ++ "::" ++ after) ↔
      [':', ':'] <:+: s.space.toList := by
    constructor
    · rintro ⟨before, after, h⟩
      exact ⟨before.toList, after.toList, by simp [h]⟩
    · rintro ⟨before, after, h⟩
      refine ⟨String.ofList before, String.ofList after, String.toList_injective ?_⟩
      rw [toList_join]
      simpa using h.symm
  have hsuffix : (∃ before, s.space = before ++ ":") ↔ [':'] <:+ s.space.toList := by
    have hcolon : ":".toList = [':'] := by decide
    constructor
    · rintro ⟨before, h⟩
      exact ⟨before.toList, by simp [h, String.toList_append, hcolon]⟩
    · rintro ⟨before, h⟩
      refine ⟨String.ofList before, String.toList_injective ?_⟩
      rw [String.toList_append, hcolon]
      simpa using h.symm
  rw [parse_eq_ok_iff, firstColons_iff, qualified, toList_join, splitFirst_join_iff, hwithin, hsuffix]
  tauto

/-- **Texts of symbols.**  A text is read as a symbol exactly if it is cut at its first double colon
into two parts that are not empty; these are the symbol, and the text is the one that the symbol is
written with.  A text that is not read is refused with itself.

A symbol is read back from its text exactly if neither part is empty and the namespace neither holds
a double colon nor ends in a colon.  Among the symbols that can be read, no two have the same
text. -/
theorem parse_roundTrip :
    (∀ text s, parse text = .ok s ↔
      FirstColons text s.space s.name ∧ s.space ≠ "" ∧ s.name ≠ "") ∧
    (∀ text s, parse text = .ok s → s.qualified = text) ∧
    (∀ text, (¬ ∃ s, parse text = .ok s) → parse text = .error (.invalidSymbol text)) ∧
    (∀ s : Symbol, parse s.qualified = .ok s ↔
      s.space ≠ "" ∧ s.name ≠ "" ∧ (¬ ∃ before after, s.space = before ++ "::" ++ after) ∧
        ¬ ∃ before, s.space = before ++ ":") ∧
    (∀ s s', (∃ text, parse text = .ok s) → (∃ text, parse text = .ok s') →
      s.qualified = s'.qualified → s = s') := by
  refine ⟨fun _ _ => parse_eq_ok_iff, fun _ _ => qualified_of_parse,
    fun _ => parse_of_not_read, parse_qualified_iff, ?_⟩
  rintro s s' ⟨text, h⟩ ⟨text', h'⟩ hsame
  rw [qualified_of_parse h, qualified_of_parse h'] at hsame
  rw [hsame, h'] at h
  exact (Except.ok.inj h).symm

/-- A colon that belongs to the name stays with it, and a colon at the end of a namespace moves over
to the name. -/
example : parse "a:::b" = .ok ⟨"a", ":b"⟩ ∧ (⟨"a:", "b"⟩ : Symbol).qualified = "a:::b" := by decide

end Delegation.Symbol
