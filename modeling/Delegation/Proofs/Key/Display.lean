import Delegation.Key
import Delegation.Proofs.Text.Hex
import Delegation.Proofs.Text.Utf8
/-!
# Which keys are shown alike

A key that is a text without control characters is shown as that text, and every other key by the
digits of its bytes after `0x`.  What is shown is never empty and holds no control character.

A text can itself be spelled `0x` and digits.  It is then shown like the key with these bytes, if that
key has no text of its own, and in no other way are two different keys shown alike
(`Key.display_ambiguous_only_if_spelled`).
-/

namespace Delegation.Key

variable {j k : Key} {t : String}

lemma bytes_inj : j.bytes = k.bytes ↔ j = k := by
  cases j
  cases k
  simp

/-! ### Keys with a text to show -/

/-- A key that is a text without control characters. -/
structure Legible (k : Key) : Prop where
  nonempty : k.bytes ≠ []
  wellFormed : Utf8.WellFormed k.bytes
  no_control : ∀ t, k.bytes = Utf8.encode t → ∀ c ∈ t.toList, isControl c = false

/-- A key that has no text to show, for one of three reasons. -/
inductive Illegible (k : Key) : Prop
  | empty (h : k.bytes = [])
  | malformed (h : ¬ Utf8.WellFormed k.bytes)
  | control (t : String) (c : Char) (ht : k.bytes = Utf8.encode t) (hc : c ∈ t.toList)
      (h : isControl c = true)

lemma isShowable_iff : isShowable t = true ↔ t ≠ "" ∧ ∀ c ∈ t.toList, isControl c = false := by
  simp [isShowable]

lemma text?_eq_some_iff : k.text? = some t ↔ k.bytes = Utf8.encode t ∧ isShowable t = true := by
  rw [text?, Option.filter_eq_some_iff, Utf8.decode?_eq_some_iff]

lemma legible_iff : k.Legible ↔ ∃ t, k.text? = some t := by
  constructor
  · intro h
    obtain ⟨t, ht⟩ := Utf8.exists_decode?_iff.mpr h.wellFormed
    have hbytes : k.bytes = Utf8.encode t := Utf8.decode?_eq_some_iff.mp ht
    have hnonempty : t ≠ "" := by
      rw [ne_eq, ← Utf8.encode_eq_nil_iff, ← hbytes]
      exact h.nonempty
    have hshowable : isShowable t = true :=
      isShowable_iff.mpr ⟨hnonempty, h.no_control t hbytes⟩
    exact ⟨t, text?_eq_some_iff.mpr ⟨hbytes, hshowable⟩⟩
  · rintro ⟨t, ht⟩
    obtain ⟨hbytes, hshowable⟩ := text?_eq_some_iff.mp ht
    obtain ⟨hnonempty, hcontrol⟩ := isShowable_iff.mp hshowable
    refine ⟨?_, ?_, fun u hu => ?_⟩
    · rwa [hbytes, ne_eq, Utf8.encode_eq_nil_iff]
    · rw [hbytes]
      exact Utf8.wellFormed_encode t
    · -- the bytes are those of one text only
      rw [hbytes] at hu
      rwa [← Utf8.encode_injective hu]

/-- The three reasons are all there are. -/
lemma illegible_iff_not_legible : k.Illegible ↔ ¬ k.Legible := by
  constructor
  · intro h hlegible
    cases h with
    | empty h => exact hlegible.nonempty h
    | malformed h => exact h hlegible.wellFormed
    | control t c ht hc h => simp [hlegible.no_control t ht c hc] at h
  · intro h
    by_contra hnot
    refine h ⟨fun hempty => hnot (.empty hempty), ?_, fun t ht c hc => ?_⟩
    · by_contra hmalformed
      exact hnot (.malformed hmalformed)
    · by_contra hcontrol
      exact hnot (.control t c ht hc (by simpa using hcontrol))

lemma legible_or_illegible (k : Key) : k.Legible ∨ k.Illegible := by
  rw [illegible_iff_not_legible]
  exact Classical.em k.Legible

lemma illegible_iff : k.Illegible ↔ k.text? = none := by
  rw [illegible_iff_not_legible, legible_iff, Option.eq_none_iff_forall_ne_some, not_exists]

/-! ### The digits of a key -/

/-- The digits of the bytes of a key, after `0x`. -/
def hexForm (k : Key) : String :=
  "0x" ++ String.ofList (Hex.ofBytes k.bytes)

lemma toList_hexForm (k : Key) : k.hexForm.toList = '0' :: 'x' :: Hex.ofBytes k.bytes := by
  simp [hexForm]

lemma exists_writes_iff {s : String} :
    (∃ digits, Hex.Writes k.bytes digits ∧ s = "0x" ++ String.ofList digits) ↔ s = k.hexForm := by
  simp [Hex.writes_iff, hexForm]

lemma hexForm_inj : j.hexForm = k.hexForm ↔ j = k := by
  constructor
  · intro h
    have hdigits : Hex.ofBytes j.bytes = Hex.ofBytes k.bytes := by
      have htoList := congrArg String.toList h
      simpa [toList_hexForm] using htoList
    exact bytes_inj.mp (Hex.ofBytes_inj.mp hdigits)
  · rintro rfl
    rfl

lemma isShowable_hexForm (k : Key) : isShowable k.hexForm = true := by
  refine isShowable_iff.mpr ⟨?_, ?_⟩
  · intro h
    have htoList := congrArg String.toList h
    simp [toList_hexForm] at htoList
  · intro c hc
    rw [toList_hexForm, List.mem_cons, List.mem_cons] at hc
    rcases hc with rfl | rfl | hc
    · decide
    · decide
    · exact Hex.isControl_of_mem_ofBytes hc

/-- A key is shorter than its digits, so it is not the text that they are. -/
lemma bytes_ne_encode_hexForm (k : Key) : k.bytes ≠ Utf8.encode k.hexForm := by
  intro h
  have hlength := Utf8.length_toList_le_length_encode k.hexForm
  rw [toList_hexForm, List.length_cons, List.length_cons, Hex.length_ofBytes, ← h] at hlength
  omega

/-! ### The two ways of showing a key -/

lemma display_of_text (h : k.text? = some t) : k.display = t := by
  rw [display, h]

lemma display_of_no_text (h : k.text? = none) : k.display = k.hexForm := by
  rw [display, h, hexForm]

lemma isShowable_display (k : Key) : isShowable k.display = true := by
  cases htext : k.text? with
  | some t =>
    rw [display_of_text htext]
    exact (text?_eq_some_iff.mp htext).2
  | none =>
    rw [display_of_no_text htext]
    exact isShowable_hexForm k

/-- A key is shown as the text that its bytes decode to. -/
def ShownAsText (k : Key) : Prop :=
  Utf8.decode? k.bytes = some k.display

/-- A key is shown by two lower-case digits for each of its bytes, after `0x`. -/
def ShownAsDigits (k : Key) : Prop :=
  ∃ digits, Hex.Writes k.bytes digits ∧ k.display = "0x" ++ String.ofList digits

lemma shownAsText_iff : k.ShownAsText ↔ k.Legible := by
  rw [ShownAsText, Utf8.decode?_eq_some_iff, legible_iff]
  constructor
  · intro h
    exact ⟨k.display, text?_eq_some_iff.mpr ⟨h, isShowable_display k⟩⟩
  · rintro ⟨t, ht⟩
    rw [display_of_text ht]
    exact (text?_eq_some_iff.mp ht).1

lemma shownAsDigits_iff : k.ShownAsDigits ↔ k.Illegible := by
  rw [ShownAsDigits, exists_writes_iff, illegible_iff]
  constructor
  · intro h
    cases htext : k.text? with
    | none => rfl
    | some t =>
      -- the text of the key would be its own digits
      exfalso
      rw [display_of_text htext] at h
      have hbytes := (text?_eq_some_iff.mp htext).1
      rw [h] at hbytes
      exact bytes_ne_encode_hexForm k hbytes
  · exact display_of_no_text

/-! ### Keys that are shown alike -/

/-- A key is the very text by which another one is shown that has no text of its own. -/
structure Spells (j k : Key) : Prop where
  bytes_eq : ∃ digits, Hex.Writes k.bytes digits ∧
    j.bytes = Utf8.encode ("0x" ++ String.ofList digits)
  illegible : k.Illegible

lemma spells_iff : j.Spells k ↔ j.text? = some k.hexForm ∧ k.text? = none := by
  constructor
  · rintro ⟨⟨digits, hdigits, hbytes⟩, hillegible⟩
    have hform : "0x" ++ String.ofList digits = k.hexForm :=
      exists_writes_iff.mp ⟨digits, hdigits, rfl⟩
    rw [hform] at hbytes
    exact ⟨text?_eq_some_iff.mpr ⟨hbytes, isShowable_hexForm k⟩, illegible_iff.mp hillegible⟩
  · rintro ⟨htext, hno⟩
    have hbytes := (text?_eq_some_iff.mp htext).1
    exact ⟨⟨_, Hex.writes_ofBytes k.bytes, hbytes⟩, illegible_iff.mpr hno⟩

lemma Spells.display_eq (h : j.Spells k) : j.display = k.display := by
  obtain ⟨htext, hno⟩ := spells_iff.mp h
  rw [display_of_text htext, display_of_no_text hno]

lemma eq_of_texts (hj : j.Legible) (hk : k.Legible) (h : j.display = k.display) : j = k := by
  obtain ⟨t, ht⟩ := legible_iff.mp hj
  obtain ⟨u, hu⟩ := legible_iff.mp hk
  rw [display_of_text ht, display_of_text hu] at h
  have hbytes : j.bytes = k.bytes := by
    rw [(text?_eq_some_iff.mp ht).1, (text?_eq_some_iff.mp hu).1, h]
  exact bytes_inj.mp hbytes

lemma eq_of_digits (hj : j.Illegible) (hk : k.Illegible) (h : j.display = k.display) : j = k := by
  rw [display_of_no_text (illegible_iff.mp hj), display_of_no_text (illegible_iff.mp hk)] at h
  exact hexForm_inj.mp h

lemma spells_of_display_eq (hj : j.Legible) (hk : k.Illegible) (h : j.display = k.display) :
    j.Spells k := by
  obtain ⟨t, ht⟩ := legible_iff.mp hj
  have hno := illegible_iff.mp hk
  rw [display_of_text ht, display_of_no_text hno] at h
  rw [h] at ht
  exact spells_iff.mpr ⟨ht, hno⟩

lemma display_eq_iff (hne : j ≠ k) : j.display = k.display ↔ j.Spells k ∨ k.Spells j := by
  constructor
  · intro h
    -- only a text and digits can be the same
    rcases legible_or_illegible j with hj | hj <;> rcases legible_or_illegible k with hk | hk
    · exact absurd (eq_of_texts hj hk h) hne
    · exact .inl (spells_of_display_eq hj hk h)
    · exact .inr (spells_of_display_eq hk hj h.symm)
    · exact absurd (eq_of_digits hj hk h) hne
  · rintro (h | h)
    · exact h.display_eq
    · exact h.display_eq.symm

/-- What is promised of the way in which a key is shown. -/
structure Presented (k : Key) : Prop where
  nonempty : k.display ≠ ""
  no_control : ∀ c ∈ k.display.toList, isControl c = false
  text_iff : k.ShownAsText ↔ k.Legible
  digits_iff : k.ShownAsDigits ↔ k.Illegible

lemma presented (k : Key) : k.Presented where
  nonempty := (isShowable_iff.mp (isShowable_display k)).1
  no_control := (isShowable_iff.mp (isShowable_display k)).2
  text_iff := shownAsText_iff
  digits_iff := shownAsDigits_iff

/-- What is promised of the ways in which two different keys are shown. -/
structure ToldApart (j k : Key) : Prop where
  alike_iff : j.display = k.display ↔ j.Spells k ∨ k.Spells j
  texts_differ : j.ShownAsText → k.ShownAsText → j.display ≠ k.display
  digits_differ : j.ShownAsDigits → k.ShownAsDigits → j.display ≠ k.display

/-- **Shown keys are ambiguous in one way only.**  What is shown of a key is not empty and holds no
control character; it is the text of the key exactly if the key is not empty, well-formed and without
control characters.

Two different keys are shown alike exactly if one of them is the text `0x` with the digits of the
other, and the other is empty, malformed or holds a control character. -/
theorem display_ambiguous_only_if_spelled :
    (∀ k : Key, k.Presented) ∧ ∀ j k : Key, j ≠ k → j.ToldApart k := by
  refine ⟨presented, fun j k hne => ⟨display_eq_iff hne, ?_, ?_⟩⟩
  · intro hj hk h
    exact hne (eq_of_texts (shownAsText_iff.mp hj) (shownAsText_iff.mp hk) h)
  · intro hj hk h
    exact hne (eq_of_digits (shownAsDigits_iff.mp hj) (shownAsDigits_iff.mp hk) h)

/-- The name `0xe282` is shown like the first two of the three bytes of a euro sign. -/
theorem display_ambiguous_only_if_spelled_cut_off :
    name "0xe282" ≠ ⟨[0xe2, 0x82]⟩ ∧ (name "0xe282").ToldApart ⟨[0xe2, 0x82]⟩ ∧
      (name "0xe282").Spells ⟨[0xe2, 0x82]⟩ := by
  have hne : name "0xe282" ≠ ⟨[0xe2, 0x82]⟩ := by decide
  have hapart := display_ambiguous_only_if_spelled.2 _ _ hne
  have halike : (name "0xe282").display = (⟨[0xe2, 0x82]⟩ : Key).display := by decide
  have htext : (name "0xe282").text? ≠ none := by decide
  refine ⟨hne, hapart, (hapart.alike_iff.mp halike).resolve_right fun h => ?_⟩
  -- the name is not the one that is shown by its digits, as it has a text to show
  exact htext (illegible_iff.mp h.illegible)

/-- The empty key is shown like the name `0x`. -/
example : (⟨[]⟩ : Key).display = (name "0x").display := by decide

end Delegation.Key
