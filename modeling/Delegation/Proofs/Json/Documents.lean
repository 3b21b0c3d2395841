import Delegation.Proofs.Json.Numerals
import Delegation.Proofs.Json.Strings
/-!
# JSON documents are read back as they are written

A document is legible when its numbers are well-formed and its strings, the names of its fields
among them, have a text.  Such a document is read back from its compact text, whatever follows, as
long as that cannot be taken for more of a number: this is proved along the document, with as much
fuel as the text has characters.  A whole text may have white space around the document
(`Json.Legible.parse_compact`).
-/

namespace Delegation.Json

/-- A document loses nothing when it is written: its numbers are well-formed, and its strings and
the names of its fields have a text. -/
inductive Legible : Json → Prop where
  | null : Legible null
  | bool (b : Bool) : Legible (bool b)
  | number {n : Numeral} (h : n.WellFormed) : Legible (number n)
  | string (s : String) : Legible (string (some s))
  | array {items : List Json} (h : ∀ item ∈ items, Legible item) : Legible (array items)
  | object {fields : List (Content × Json)} (hnames : ∀ f ∈ fields, ∃ name, f.1 = some name)
      (h : ∀ f ∈ fields, Legible f.2) : Legible (object fields)

lemma legible_ofFields {fields : List (String × Json)} (h : ∀ f ∈ fields, Legible f.2) :
    Legible (.ofFields fields) := by
  refine .object ?_ ?_
  · intro f hf
    obtain ⟨g, -, rfl⟩ := List.mem_map.mp hf
    exact ⟨g.1, rfl⟩
  · intro f hf
    obtain ⟨g, hg, rfl⟩ := List.mem_map.mp hf
    exact h g hg

/-- A text of white space. -/
def Blank (text : String) : Prop :=
  ∀ c ∈ text.toList, isSpace c = true

instance (text : String) : Decidable (Blank text) :=
  decidable_of_iff (text.toList.all isSpace = true) List.all_eq_true

lemma blank_empty : Blank "" := by
  decide

/-- A document is read back from its text. -/
def ReadBack (j : Json) : Prop :=
  ∀ (fuel : Nat) (rest : List Char), j.render.length ≤ fuel → Ends rest →
    readValue fuel (j.render ++ rest) = some (j, rest)

/-! ### White space -/

lemma skipSpace_cons {c : Char} (h : isSpace c = false) (cs : List Char) :
    skipSpace (c :: cs) = c :: cs := by
  simp [skipSpace, h]

lemma skipSpace_blank_append {before : List Char} (h : ∀ c ∈ before, isSpace c = true)
    (cs : List Char) : skipSpace (before ++ cs) = skipSpace cs :=
  List.dropWhile_append_of_pos h

lemma readValue_blank_append {before : List Char} (h : ∀ c ∈ before, isSpace c = true)
    (fuel : Nat) (cs : List Char) : readValue fuel (before ++ cs) = readValue fuel cs := by
  cases fuel with
  | zero => rfl
  | succ fuel => rw [readValue, readValue, skipSpace_blank_append h]

lemma ends_cons {c : Char} (h : isNumeralChar c = false) (cs : List Char) : Ends (c :: cs) := by
  intro d hd
  cases hd
  exact h

lemma ends_blank {after : List Char} (h : ∀ c ∈ after, isSpace c = true) : Ends after := by
  intro c hc
  have hspace := h c (List.mem_of_mem_head? hc)
  simp only [isSpace, Bool.or_eq_true, beq_iff_eq] at hspace
  rcases hspace with ((rfl | rfl) | rfl) | rfl <;> decide

/-! ### How documents begin -/

/-- The characters that a number can begin with. -/
def isNumeralStart (c : Char) : Bool :=
  isDecimalDigit c || c == '-'

lemma Numeral.Shaped.exists_head {n : Numeral} (h : n.Shaped) :
    ∃ c cs, n.render = c :: cs ∧ isNumeralStart c = true := by
  obtain ⟨d, whole, hwhole⟩ := List.exists_cons_of_ne_nil h.whole_ne_nil
  have hdigit : isDecimalDigit d = true := h.whole d (by simp [hwhole])
  rw [Numeral.render_eq, hwhole]
  cases n.negative with
  | true => exact ⟨'-', _, rfl, rfl⟩
  | false => exact ⟨d, _, rfl, by simp [isNumeralStart, hdigit]⟩

/-- A number begins neither with white space nor with the sign of any other kind of document. -/
lemma ne_of_isNumeralStart {c : Char} (h : isNumeralStart c = true) :
    ∀ d ∈ [' ', '\n', '\t', '\r', '\x22', '[', ']', '\x7b', 'n', 't', 'f'], c ≠ d := by
  rintro d hd rfl
  have hothers : [' ', '\n', '\t', '\r', '\x22', '[', ']', '\x7b', 'n', 't', 'f'].all
      (fun d => !isNumeralStart d) = true := by decide
  have hother := List.all_eq_true.mp hothers c hd
  rw [h] at hother
  cases hother

lemma isSpace_of_isNumeralStart {c : Char} (h : isNumeralStart c = true) : isSpace c = false := by
  have hne := ne_of_isNumeralStart h
  simp only [List.forall_mem_cons] at hne
  simp [isSpace, hne]

lemma Legible.exists_head {j : Json} (h : Legible j) :
    ∃ c cs, j.render = c :: cs ∧ isSpace c = false ∧ c ≠ ']' := by
  cases h with
  | null => exact ⟨'n', _, rfl, rfl, by decide⟩
  | bool b => cases b <;> exact ⟨_, _, rfl, rfl, by decide⟩
  | number h =>
    obtain ⟨c, cs, hrender, hc⟩ := h.exists_head
    exact ⟨c, cs, hrender, isSpace_of_isNumeralStart hc, ne_of_isNumeralStart hc ']' (by decide)⟩
  | string s => exact ⟨'\x22', _, rfl, rfl, by decide⟩
  | array h => exact ⟨'[', _, rfl, rfl, by decide⟩
  | object hnames h => exact ⟨'\x7b', _, rfl, rfl, by decide⟩

/-! ### One document -/

/-- The first character tells that a number follows. -/
lemma readValue_of_isNumeralStart {c : Char} (hc : isNumeralStart c = true) (fuel : Nat)
    (cs : List Char) :
    readValue (fuel + 1) (c :: cs) = (readNumeral (c :: cs)).map fun r => (number r.1, r.2) := by
  have hne := ne_of_isNumeralStart hc
  simp only [List.forall_mem_cons] at hne
  simp [readValue, skipSpace_cons (isSpace_of_isNumeralStart hc), hne]

lemma readValue_number {n : Numeral} (h : n.Shaped) (fuel : Nat) (rest : List Char) :
    readValue (fuel + 1) (n.render ++ rest) =
      (readNumeral (n.render ++ rest)).map fun r => (number r.1, r.2) := by
  obtain ⟨c, cs, hrender, hc⟩ := h.exists_head
  rw [hrender]
  exact readValue_of_isNumeralStart hc fuel (cs ++ rest)

lemma readBack_number {n : Numeral} (h : n.WellFormed) : ReadBack (number n) := by
  intro fuel rest hfuel hrest
  have hpos : 0 < n.render.length := by
    obtain ⟨c, cs, hrender, -⟩ := h.exists_head
    simp [hrender]
  rw [render] at hfuel ⊢
  obtain ⟨fuel, rfl⟩ : ∃ m, fuel = m + 1 := ⟨fuel - 1, by omega⟩
  rw [readValue_number h.toShaped, Numeral.readNumeral_render h hrest]
  rfl

lemma renderText_append (s : String) (rest : List Char) :
    renderText s ++ rest = '\x22' :: (s.toList.flatMap escape ++ '\x22' :: rest) := by
  simp [renderText]

lemma readBack_string (s : String) : ReadBack (string (some s)) := by
  intro fuel rest hfuel hrest
  have htext : render (string (some s)) ++ rest =
      '\x22' :: (s.toList.flatMap escape ++ '\x22' :: rest) := renderText_append s rest
  cases fuel with
  | zero => simp [render, renderContent, renderText] at hfuel
  | succ fuel =>
    rw [htext, readValue, skipSpace_cons rfl]
    simp only [readContent_flatMap_escape, Option.map_some]

/-! ### Arrays -/

lemma renderItems_cons (item : Json) {items : List Json} (hne : items ≠ []) :
    renderItems (item :: items) = render item ++ ',' :: renderItems items := by
  obtain ⟨item', items, rfl⟩ := List.exists_cons_of_ne_nil hne
  rfl

lemma readItems_renderItems {items : List Json} (hne : items ≠ [])
    (h : ∀ item ∈ items, ReadBack item) (fuel : Nat) (rest : List Char)
    (hfuel : (renderItems items).length + 1 ≤ fuel) :
    readItems fuel (renderItems items ++ ']' :: rest) = some (items, rest) := by
  induction items generalizing fuel with
  | nil => exact absurd rfl hne
  | cons item items ih =>
    obtain ⟨fuel, rfl⟩ : ∃ n, fuel = n + 1 := ⟨fuel - 1, by omega⟩
    have hitem := h item List.mem_cons_self
    -- the last item is followed by the bracket, and each other one by a comma
    by_cases hlast : items = []
    · subst hlast
      have hread := hitem fuel (']' :: rest) (by simpa [renderItems] using hfuel)
        (ends_cons (by decide) rest)
      rw [renderItems, readItems, hread]
      simp [skipSpace_cons (c := ']') rfl]
    · rw [renderItems_cons item hlast, List.append_assoc, List.cons_append]
      rw [renderItems_cons item hlast, List.length_append, List.length_cons] at hfuel
      have hread := hitem fuel (',' :: (renderItems items ++ ']' :: rest)) (by omega)
        (ends_cons (by decide) _)
      have hitems := ih hlast (fun i hi => h i (List.mem_cons_of_mem _ hi)) fuel (by omega)
      rw [readItems, hread]
      simp [skipSpace_cons (c := ',') rfl, hitems]

lemma exists_head_renderItems {items : List Json} (hne : items ≠ [])
    (h : ∀ item ∈ items, Legible item) :
    ∃ c cs, renderItems items = c :: cs ∧ isSpace c = false ∧ c ≠ ']' := by
  obtain ⟨item, items, rfl⟩ := List.exists_cons_of_ne_nil hne
  obtain ⟨c, cs, hrender, hspace, hbracket⟩ := (h item List.mem_cons_self).exists_head
  by_cases hlast : items = []
  · subst hlast
    exact ⟨c, cs, hrender, hspace, hbracket⟩
  · rw [renderItems_cons item hlast, hrender]
    exact ⟨c, _, rfl, hspace, hbracket⟩

lemma readBack_array {items : List Json} (hlegible : ∀ item ∈ items, Legible item)
    (h : ∀ item ∈ items, ReadBack item) : ReadBack (array items) := by
  intro fuel rest hfuel hrest
  have htext : render (array items) ++ rest = '[' :: (renderItems items ++ ']' :: rest) := by
    simp [render]
  rw [render, List.length_append, List.length_cons] at hfuel
  obtain ⟨fuel, rfl⟩ : ∃ n, fuel = n + 1 := ⟨fuel - 1, by omega⟩
  rw [htext, readValue, skipSpace_cons rfl]
  -- only the bracket tells an empty array from one with items
  by_cases hne : items = []
  · subst hne
    simp [renderItems, skipSpace_cons (c := ']') rfl]
  · obtain ⟨c, cs, hitems, hspace, hbracket⟩ := exists_head_renderItems hne hlegible
    have hread := readItems_renderItems hne h fuel rest (by simp at hfuel; omega)
    rw [hitems, List.cons_append] at hread ⊢
    simp [skipSpace_cons hspace, hbracket, hread]

/-! ### Objects -/

lemma renderField_append (name : String) (item : Json) (rest : List Char) :
    renderContent (some name) ++ ':' :: item.render ++ rest =
      '\x22' :: (name.toList.flatMap escape ++ '\x22' :: ':' :: (item.render ++ rest)) := by
  simp [renderContent, renderText]

lemma renderFields_cons (name : Content) (item : Json) {fields : List (Content × Json)}
    (hne : fields ≠ []) :
    renderFields ((name, item) :: fields) =
      renderContent name ++ ':' :: item.render ++ ',' :: renderFields fields := by
  obtain ⟨field, fields, rfl⟩ := List.exists_cons_of_ne_nil hne
  rfl

lemma readFields_renderFields {fields : List (Content × Json)} (hne : fields ≠ [])
    (hnames : ∀ f ∈ fields, ∃ name, f.1 = some name) (h : ∀ f ∈ fields, ReadBack f.2) (fuel : Nat)
    (rest : List Char) (hfuel : (renderFields fields).length + 1 ≤ fuel) :
    readFields fuel (renderFields fields ++ '\x7d' :: rest) = some (fields, rest) := by
  induction fields generalizing fuel with
  | nil => exact absurd rfl hne
  | cons field fields ih =>
    obtain ⟨fuel, rfl⟩ : ∃ n, fuel = n + 1 := ⟨fuel - 1, by omega⟩
    obtain ⟨content, item⟩ := field
    obtain ⟨name, rfl⟩ : ∃ name, content = some name := hnames _ List.mem_cons_self
    have hitem : ReadBack item := h _ List.mem_cons_self
    by_cases hlast : fields = []
    · subst hlast
      have hlength : item.render.length ≤ fuel := by
        simp only [renderFields, List.length_append, List.length_cons] at hfuel
        omega
      have hread := hitem fuel ('\x7d' :: rest) hlength (ends_cons (by decide) rest)
      rw [renderFields, renderField_append, readFields, skipSpace_cons rfl]
      simp [readContent_flatMap_escape, skipSpace_cons (c := ':') rfl, hread,
        skipSpace_cons (c := '\x7d') rfl]
    · rw [renderFields_cons _ _ hlast, List.length_append, List.length_cons, List.length_append,
        List.length_cons] at hfuel
      have hread := hitem fuel (',' :: (renderFields fields ++ '\x7d' :: rest)) (by omega)
        (ends_cons (by decide) _)
      have hfields := ih hlast (fun f hf => hnames f (List.mem_cons_of_mem _ hf))
        (fun f hf => h f (List.mem_cons_of_mem _ hf)) fuel (by omega)
      rw [renderFields_cons _ _ hlast, List.append_assoc, List.cons_append, renderField_append,
        readFields, skipSpace_cons rfl]
      simp [readContent_flatMap_escape, skipSpace_cons (c := ':') rfl, hread,
        skipSpace_cons (c := ',') rfl, hfields]

lemma exists_head_renderFields {fields : List (Content × Json)} (hne : fields ≠ []) :
    ∃ cs, renderFields fields = '\x22' :: cs := by
  obtain ⟨⟨name, item⟩, fields, rfl⟩ := List.exists_cons_of_ne_nil hne
  cases fields <;> exact ⟨_, rfl⟩

lemma readBack_object {fields : List (Content × Json)}
    (hnames : ∀ f ∈ fields, ∃ name, f.1 = some name) (h : ∀ f ∈ fields, ReadBack f.2) :
    ReadBack (object fields) := by
  intro fuel rest hfuel hrest
  have htext : render (object fields) ++ rest =
      '\x7b' :: (renderFields fields ++ '\x7d' :: rest) := by
    simp [render]
  rw [render, List.length_append, List.length_cons] at hfuel
  obtain ⟨fuel, rfl⟩ : ∃ n, fuel = n + 1 := ⟨fuel - 1, by omega⟩
  rw [htext, readValue, skipSpace_cons rfl]
  by_cases hne : fields = []
  · subst hne
    simp [renderFields, skipSpace_cons (c := '\x7d') rfl]
  · obtain ⟨cs, hfields⟩ := exists_head_renderFields hne
    have hread := readFields_renderFields hne hnames h fuel rest (by simp at hfuel; omega)
    rw [hfields, List.cons_append] at hread ⊢
    simp [skipSpace_cons (c := '\x22') rfl, hread]

/-! ### Items one by one -/

/-- Items that are read back one by one are read back together. -/
lemma mapM_map_of_inverse {α β : Type} {f : α → β} {g : β → Option α} {xs : List α}
    (h : ∀ x ∈ xs, g (f x) = some x) : (xs.map f).mapM g = some xs := by
  induction xs with
  | nil => rfl
  | cons x xs ih =>
    have hxs := ih fun y hy => h y (List.mem_cons_of_mem x hy)
    rw [List.map_cons, List.mapM_cons, h x List.mem_cons_self, hxs]
    rfl

/-! ### Whole texts -/

/-- **A legible document is read back from its text, whatever follows.** -/
lemma Legible.readBack {j : Json} (h : Legible j) : ReadBack j := by
  induction h with
  | null =>
    intro fuel rest hfuel hrest
    obtain ⟨fuel, rfl⟩ : ∃ n, fuel = n + 1 := ⟨fuel - 1, by simp [render] at hfuel; omega⟩
    rfl
  | bool b =>
    intro fuel rest hfuel hrest
    obtain ⟨fuel, rfl⟩ : ∃ n, fuel = n + 1 :=
      ⟨fuel - 1, by cases b <;> simp [render] at hfuel <;> omega⟩
    cases b <;> rfl
  | number h => exact readBack_number h
  | string s => exact readBack_string s
  | array h ih => exact readBack_array h ih
  | object hnames h ih => exact readBack_object hnames ih

lemma Legible.parse_compact {j : Json} (h : Legible j) {before after : String}
    (hbefore : Blank before) (hafter : Blank after) :
    parse (before ++ j.compact ++ after) = some j := by
  have htext : (before ++ j.compact ++ after).toList =
      before.toList ++ (j.render ++ after.toList) := by
    simp [compact]
  have hread := h.readBack (2 * (before.toList ++ (j.render ++ after.toList)).length + 2)
    after.toList (by simp; omega) (ends_blank hafter)
  have hrest : skipSpace after.toList = [] := by
    have hskip := skipSpace_blank_append hafter []
    rwa [List.append_nil] at hskip
  rw [parse, htext]
  simp only [readValue_blank_append hbefore, hread, hrest]
  rfl

lemma Legible.parse_compact_self {j : Json} (h : Legible j) : parse j.compact = some j := by
  simpa using h.parse_compact blank_empty blank_empty

/-- A number whose text is read at all has no superfluous zero. -/
lemma legible_number_of_parse {n : Numeral} (h : n.Shaped)
    (hparse : parse (number n).compact ≠ none) : Legible (number n) := by
  refine .number (Numeral.wellFormed_of_readNumeral h fun hread => hparse ?_)
  have htext : (number n).compact.toList = n.render ++ [] := by
    simp [compact, render]
  have hvalue := readValue_number h (2 * (n.render ++ []).length + 1) []
  rw [List.append_nil, hread] at hvalue
  rw [parse, htext, List.append_nil]
  simp only [hvalue, Option.map_none]

end Delegation.Json
