import Delegation.Json.Reader
import Mathlib.Data.Nat.Digits.Defs
/-!
# JSON numbers are read back as they are written

A numeral is well-formed when its parts are made of digits and its whole part has no superfluous
zero.  Such a numeral is read back from its text, whatever follows, as long as that cannot be taken
for more of the number (`Json.Numeral.readNumeral_render`).  The numerals of integers are
well-formed and stand for the integers that they are made from.  The numeral of a floating-point
number has digits in all its parts by the way it is laid out; that it has no superfluous zero, and
so is well-formed, follows if its text is read at all (`Json.Numeral.wellFormed_of_readNumeral`).
-/

namespace Delegation

/-! ### Digits -/

lemma isDecimalDigit_eq_isDigit (c : Char) : isDecimalDigit c = c.isDigit := by
  have hdigit : c.isDigit = true ↔ 48 ≤ c.toNat ∧ c.toNat ≤ 57 := by
    simp [Char.isDigit, UInt32.le_iff_toNat_le]
  rw [Bool.eq_iff_iff, hdigit, isDecimalDigit, decimalDigit?]
  split
  · rename_i h
    simpa using h
  · rename_i h
    simpa using h

lemma isDecimalDigit_of_mem_toDigits {n : Nat} {c : Char} (h : c ∈ Nat.toDigits 10 n) :
    isDecimalDigit c = true := by
  rw [isDecimalDigit_eq_isDigit]
  exact Nat.isDigit_of_mem_toDigits (by omega) (by omega) h

lemma isDecimalDigit_of_mem_zeros {n : Nat} {c : Char} (h : c ∈ List.replicate n '0') :
    isDecimalDigit c = true := by
  rw [List.eq_of_mem_replicate h]
  decide

lemma isDecimalDigit_of_mem_zero {c : Char} (h : c ∈ ['0']) : isDecimalDigit c = true := by
  rw [List.mem_singleton.mp h]
  decide

lemma natOfDigits_toDigits (n : Nat) : natOfDigits (Nat.toDigits 10 n) = n :=
  Nat.ofDigitChars_ten_toDigits

lemma natOfDigits_zeros_append (n : Nat) (digits : List Char) :
    natOfDigits (List.replicate n '0' ++ digits) = natOfDigits digits := by
  induction n with
  | zero => rfl
  | succ n ih =>
    rw [← ih]
    rfl

/-- A number is written without zeros in front. -/
lemma head?_toDigits_ne_zero {n : Nat} (h : n ≠ 0) : (Nat.toDigits 10 n).head? ≠ some '0' := by
  induction n using Nat.strongRecOn with
  | _ n ih =>
    by_cases hsmall : n < 10
    · rw [Nat.toDigits_of_lt_base hsmall]
      simpa using h
    · have hne : Nat.toDigits 10 (n / 10) ≠ [] := Nat.toDigits_ne_nil
      obtain ⟨d, ds, hds⟩ := List.exists_cons_of_ne_nil hne
      have hhead := ih (n / 10) (by omega) (by omega)
      rw [Nat.toDigits_of_base_le (by omega) (by omega), hds]
      simpa [hds] using hhead

namespace Json

/-- A text does not go on with a character of a kind. -/
def Stops (p : Char → Bool) (cs : List Char) : Prop :=
  ∀ c, cs.head? = some c → p c = false

lemma takeWhile_of_stops {p : Char → Bool} {ds cs : List Char} (hds : ∀ c ∈ ds, p c = true)
    (hcs : Stops p cs) : (ds ++ cs).takeWhile p = ds ∧ (ds ++ cs).dropWhile p = cs := by
  rw [List.takeWhile_append_of_pos hds, List.dropWhile_append_of_pos hds]
  cases cs with
  | nil => simp
  | cons c cs =>
    have hc : p c = false := hcs c rfl
    simp [hc]

/-- The characters that a number can go on with after a digit. -/
def isNumeralChar (c : Char) : Bool :=
  isDecimalDigit c || c == '.' || c == 'e' || c == 'E'

/-- A text cannot be taken for more of a number that stands in front of it. -/
abbrev Ends (cs : List Char) : Prop :=
  Stops isNumeralChar cs

lemma Ends.stops_digit {cs : List Char} (h : Ends cs) : Stops isDecimalDigit cs := by
  intro c hc
  have hnumeral := h c hc
  simp only [isNumeralChar, Bool.or_eq_false_iff] at hnumeral
  exact hnumeral.1.1.1

namespace Numeral

/-! ### Well-formed numerals -/

/-- The parts of a numeral are made of digits, and there is a whole part. -/
structure Shaped (n : Numeral) : Prop where
  whole_ne_nil : n.whole ≠ []
  whole : ∀ c ∈ n.whole, isDecimalDigit c = true
  fraction : ∀ c ∈ n.fraction, isDecimalDigit c = true

/-- A numeral has the form that JSON demands: no zero stands in front of other digits. -/
structure WellFormed (n : Numeral) : Prop extends n.Shaped where
  zero : n.whole = ['0'] ∨ n.whole.head? ≠ some '0'

/-- The text of a numeral after its digits. -/
def exponentTail (n : Numeral) : List Char :=
  match n.exponent with
  | some e => 'e' :: exponentText e
  | none => []

/-- The text of a numeral after its whole part. -/
def tail (n : Numeral) : List Char :=
  (if n.fraction.isEmpty then [] else '.' :: n.fraction) ++ n.exponentTail

lemma render_eq (n : Numeral) :
    n.render = (if n.negative then ['-'] else []) ++ (n.whole ++ n.tail) := by
  simp only [render, tail, List.append_assoc]
  rfl

lemma tail_of_eq_nil {n : Numeral} (h : n.fraction = []) : n.tail = n.exponentTail := by
  simp [tail, h]

lemma tail_append_of_ne_nil {n : Numeral} (h : n.fraction ≠ []) (rest : List Char) :
    n.tail ++ rest = '.' :: (n.fraction ++ (n.exponentTail ++ rest)) := by
  simp [tail, h]

/-! ### Reading them -/

lemma readExponent_digits {digits rest : List Char}
    (hdigits : ∀ c ∈ digits, isDecimalDigit c = true) (hne : digits ≠ []) (hrest : Ends rest) :
    readExponent ('-' :: (digits ++ rest)) = some (-(natOfDigits digits : Int), rest) ∧
      readExponent ('+' :: (digits ++ rest)) = some ((natOfDigits digits : Int), rest) := by
  obtain ⟨htake, hdrop⟩ := takeWhile_of_stops hdigits hrest.stops_digit
  have hempty : digits.isEmpty = false := by simpa using hne
  simp only [readExponent, htake, hdrop, hempty]
  exact ⟨rfl, rfl⟩

lemma readExponent_exponentText (e : Int) {rest : List Char} (hrest : Ends rest) :
    readExponent (exponentText e ++ rest) = some (e, rest) := by
  set digits := List.replicate (2 - (Nat.toDigits 10 e.natAbs).length) '0' ++
    Nat.toDigits 10 e.natAbs with heq
  have hdigits : ∀ c ∈ digits, isDecimalDigit c = true := by
    intro c hc
    rcases List.mem_append.mp hc with hc | hc
    · exact isDecimalDigit_of_mem_zeros hc
    · exact isDecimalDigit_of_mem_toDigits hc
  have hne : digits ≠ [] := by simp [heq, Nat.toDigits_ne_nil]
  have hvalue : natOfDigits digits = e.natAbs := by
    rw [heq, natOfDigits_zeros_append, natOfDigits_toDigits]
  have htext : exponentText e ++ rest = (if e < 0 then '-' else '+') :: (digits ++ rest) := by
    simp [exponentText, heq]
  obtain ⟨hminus, hplus⟩ := readExponent_digits hdigits hne hrest
  rw [hvalue] at hminus hplus
  rw [htext]
  split
  · rw [hminus, show -(e.natAbs : Int) = e by omega]
  · rw [hplus, show (e.natAbs : Int) = e by omega]

/-- Without a fraction a number goes on with its exponent, or with the text that follows. -/
lemma readTail_exponentTail (n : Numeral) {rest : List Char} (hrest : Ends rest) :
    readTail n.negative n.whole (n.exponentTail ++ rest) =
      some (⟨n.negative, n.whole, [], n.exponent⟩, rest) := by
  cases he : n.exponent with
  | some e =>
    simp [exponentTail, he, readTail, readExponent_exponentText e hrest]
  | none =>
    cases rest with
    | nil => simp [exponentTail, he, readTail]
    | cons c rest =>
      have hc : isNumeralChar c = false := hrest c rfl
      simp only [isNumeralChar, Bool.or_eq_false_iff, beq_eq_false_iff_ne] at hc
      obtain ⟨⟨⟨-, hpoint⟩, he'⟩, hE⟩ := hc
      simp [exponentTail, he, readTail, hpoint, he', hE]

/-- A fraction is read in front of what follows. -/
lemma readTail_fraction {negative : Bool} {whole digits cs : List Char}
    (hdigits : ∀ c ∈ digits, isDecimalDigit c = true) (hne : digits ≠ [])
    (hcs : Stops isDecimalDigit cs) (hpoint : cs.head? ≠ some '.') :
    readTail negative whole ('.' :: (digits ++ cs)) =
      (readTail negative whole cs).map fun r => ({ r.1 with fraction := digits }, r.2) := by
  obtain ⟨htake, hdrop⟩ := takeWhile_of_stops hdigits hcs
  have hempty : digits.isEmpty = false := by simpa using hne
  cases cs with
  | nil =>
    rw [List.append_nil] at htake hdrop
    simp [readTail, htake, hdrop, hne]
  | cons c cs =>
    have hc : c ≠ '.' := by simpa using hpoint
    by_cases he : c = 'e' ∨ c = 'E'
    · rcases he with rfl | rfl
      · cases h : readExponent cs <;> simp [readTail, htake, hdrop, hempty, h]
      · cases h : readExponent cs <;> simp [readTail, htake, hdrop, hempty, h]
    · obtain ⟨he, hE⟩ := not_or.mp he
      simp [readTail, htake, hdrop, hempty, hc, he, hE]

/-- Neither a digit nor a point comes after the digits of a numeral. -/
lemma stops_exponentTail (n : Numeral) {rest : List Char} (hrest : Ends rest) :
    Stops isDecimalDigit (n.exponentTail ++ rest) ∧ (n.exponentTail ++ rest).head? ≠ some '.' := by
  cases he : n.exponent with
  | some e =>
    have htail : n.exponentTail = 'e' :: exponentText e := by rw [exponentTail, he]
    rw [htail]
    refine ⟨?_, by simp⟩
    intro c hc
    cases hc
    decide
  | none =>
    have htail : n.exponentTail = [] := by rw [exponentTail, he]
    rw [htail]
    refine ⟨hrest.stops_digit, fun hpoint => ?_⟩
    have hc := hrest '.' hpoint
    revert hc
    decide

lemma readTail_tail {n : Numeral} (hfraction : ∀ c ∈ n.fraction, isDecimalDigit c = true)
    {rest : List Char} (hrest : Ends rest) :
    readTail n.negative n.whole (n.tail ++ rest) = some (n, rest) := by
  have hexponent := readTail_exponentTail n hrest
  by_cases hne : n.fraction = []
  · rw [tail_of_eq_nil hne, hexponent, ← hne]
  · obtain ⟨hstops, hpoint⟩ := stops_exponentTail n hrest
    rw [tail_append_of_ne_nil hne, readTail_fraction hfraction hne hstops hpoint, hexponent]
    rfl

lemma stops_tail (n : Numeral) {rest : List Char} (hrest : Ends rest) :
    Stops isDecimalDigit (n.tail ++ rest) := by
  by_cases hne : n.fraction = []
  · rw [tail_of_eq_nil hne]
    exact (stops_exponentTail n hrest).1
  · rw [tail_append_of_ne_nil hne]
    intro c hc
    cases hc
    decide

/-- A number after its sign. -/
def readUnsigned (negative : Bool) (cs : List Char) : Option (Numeral × List Char) :=
  let digits := cs.takeWhile isDecimalDigit
  let rest := cs.dropWhile isDecimalDigit
  match digits with
  | [] => none
  | ['0'] => readTail negative ['0'] rest
  | '0' :: _ => none
  | _ => readTail negative digits rest

lemma readNumeral_cons_of_ne {c : Char} (hc : c ≠ '-') (cs : List Char) :
    readNumeral (c :: cs) = readUnsigned false (c :: cs) := by
  have hsign : ∀ rest, c :: cs = '-' :: rest → False := fun rest h =>
    hc (List.cons_eq_cons.mp h).1
  exact readNumeral.eq_2 (c :: cs) hsign

lemma readNumeral_minus (cs : List Char) : readNumeral ('-' :: cs) = readUnsigned true cs := rfl

/-- The whole part is taken off, and superfluous zeros are refused. -/
lemma readUnsigned_of_shaped {n : Numeral} (h : n.Shaped) {rest : List Char} (hrest : Ends rest) :
    readUnsigned n.negative (n.whole ++ (n.tail ++ rest)) =
      if n.whole = ['0'] ∨ n.whole.head? ≠ some '0' then some (n, rest) else none := by
  obtain ⟨htake, hdrop⟩ := takeWhile_of_stops h.whole (stops_tail n hrest)
  have htail := readTail_tail h.fraction hrest
  rw [readUnsigned, htake, hdrop]
  obtain ⟨c, whole, hwhole⟩ := List.exists_cons_of_ne_nil h.whole_ne_nil
  rw [hwhole] at htail ⊢
  by_cases hzero : c = '0'
  · subst hzero
    cases whole with
    | nil => simpa using htail
    | cons d whole => simp
  · simpa [hzero] using htail

lemma readNumeral_of_shaped {n : Numeral} (h : n.Shaped) {rest : List Char} (hrest : Ends rest) :
    readNumeral (n.render ++ rest) =
      if n.whole = ['0'] ∨ n.whole.head? ≠ some '0' then some (n, rest) else none := by
  rw [← readUnsigned_of_shaped h hrest, render_eq]
  cases n.negative with
  | true => simpa using readNumeral_minus _
  | false =>
    obtain ⟨c, whole, hwhole⟩ := List.exists_cons_of_ne_nil h.whole_ne_nil
    have hminus : c ≠ '-' := by
      rintro rfl
      have hdigit := h.whole '-' (by simp [hwhole])
      revert hdigit
      decide
    simpa [hwhole] using readNumeral_cons_of_ne hminus _

/-- **A well-formed numeral is read back from its text.** -/
lemma readNumeral_render {n : Numeral} (h : n.WellFormed) {rest : List Char} (hrest : Ends rest) :
    readNumeral (n.render ++ rest) = some (n, rest) := by
  rw [readNumeral_of_shaped h.toShaped hrest, if_pos h.zero]

lemma wellFormed_of_readNumeral {n : Numeral} (h : n.Shaped) (hread : readNumeral n.render ≠ none) :
    n.WellFormed := by
  have hends : Ends [] := by
    intro c hc
    cases hc
  have hshaped := readNumeral_of_shaped h hends
  rw [List.append_nil] at hshaped
  refine ⟨h, ?_⟩
  by_contra hzero
  rw [if_neg hzero] at hshaped
  exact hread hshaped

/-! ### The numerals of integers -/

lemma wellFormed_ofInt (i : Int) : (ofInt i).WellFormed where
  whole_ne_nil := Nat.toDigits_ne_nil
  whole c hc := isDecimalDigit_of_mem_toDigits hc
  fraction c hc := by cases hc
  zero := by
    by_cases hi : i.natAbs = 0
    · left
      rw [ofInt, hi, Nat.toDigits_zero]
    · exact Or.inr (head?_toDigits_ne_zero hi)

lemma ofNat_eq_ofInt (n : Nat) : ofNat n = ofInt n := by
  have hn : ¬ (n : Int) < 0 := by omega
  simp [ofNat, ofInt, hn]

lemma number?_ofNat (n : UInt64) : (ofNat n.toNat).number? = some (.natural n) := by
  have hn : n.toNat < UInt64.size := n.toNat_lt
  simp [number?, ofNat, isWhole, natOfDigits_toDigits, hn]

/-- An integer that fits 64 bits with a sign is read as itself. -/
lemma asSigned?_ofInt (i : Int64) : asSigned? (.number (ofInt i.toInt)) = some i := by
  have hlow : -2 ^ 63 ≤ i.toInt := i.le_toInt
  have hhigh : i.toInt < 2 ^ 63 := i.toInt_lt
  have hsize : UInt64.size = 2 ^ 64 := rfl
  have hvalue : natOfDigits (ofInt i.toInt).whole = i.toInt.natAbs := natOfDigits_toDigits _
  have hwhole : (ofInt i.toInt).isWhole = true := rfl
  by_cases hi : i.toInt < 0
  · have hnegative : (ofInt i.toInt).negative = true := by simpa [ofInt] using hi
    have hback : -(i.toInt.natAbs : Int) = i.toInt := by omega
    have hnumber : (ofInt i.toInt).number? = some (.negative i) := by
      have hmagnitude : i.toInt.natAbs ≠ 0 ∧ i.toInt.natAbs ≤ UInt64.size / 2 := by omega
      simp only [number?, hvalue, hwhole, hnegative, hback, Int64.ofInt_toInt]
      simp [hmagnitude]
    rw [asSigned?, hnumber]
  · have hnegative : (ofInt i.toInt).negative = false := by simpa [ofInt] using hi
    have hfits : i.toInt.natAbs < UInt64.size := by omega
    have hnumber : (ofInt i.toInt).number? = some (.natural (UInt64.ofNat i.toInt.natAbs)) := by
      simp only [number?, hvalue, hwhole, hnegative]
      simp [hfits]
    have hback : ((UInt64.ofNat i.toInt.natAbs).toNat : Int) = i.toInt := by
      rw [UInt64.toNat_ofNat_of_lt' hfits]
      omega
    have hrange : -((UInt64.size / 2 : Nat) : Int) ≤ i.toInt ∧ i.toInt < (UInt64.size / 2 : Nat) := by
      omega
    simp only [asSigned?, hnumber, hback, fitsSigned, if_pos hrange, Int64.ofInt_toInt]

/-! ### The numerals of floating-point numbers -/

lemma shaped_ofDecimal (l : NumberLayout) (negative : Bool) (d : Decimal) :
    (ofDecimal l negative d).Shaped := by
  set digits := Nat.toDigits 10 d.digits with hdef
  have hdigits : ∀ c ∈ digits, isDecimalDigit c = true := fun c hc =>
    isDecimalDigit_of_mem_toDigits hc
  have hne : digits ≠ [] := Nat.toDigits_ne_nil
  have hzero : ∀ c ∈ ['0'], isDecimalDigit c = true := fun c hc => isDecimalDigit_of_mem_zero hc
  -- one case for each place that the point can have
  simp only [ofDecimal, ← hdef]
  split
  · refine ⟨by simp [hne], ?_, hzero⟩
    intro c hc
    exact (List.mem_append.mp hc).elim (hdigits c) isDecimalDigit_of_mem_zeros
  · split
    · rename_i hplace
      have hwhole : ((digits.length : Int) + d.exponent).toNat ≠ 0 := by omega
      exact ⟨by simp [hne, hwhole], fun c hc => hdigits c (List.mem_of_mem_take hc),
        fun c hc => hdigits c (List.mem_of_mem_drop hc)⟩
    · split
      · refine ⟨by simp, hzero, ?_⟩
        intro c hc
        exact (List.mem_append.mp hc).elim isDecimalDigit_of_mem_zeros (hdigits c)
      · exact ⟨by simp [hne], fun c hc => hdigits c (List.mem_of_mem_take hc),
          fun c hc => hdigits c (List.mem_of_mem_drop hc)⟩

lemma shaped_of_ofValue? {l : NumberLayout} {f : BinaryFormat} {v : BinaryValue} {n : Numeral}
    (h : ofValue? l f v = some n) : n.Shaped := by
  cases v with
  | finite negative significand exponent =>
    have hzero : ∀ c ∈ ['0'], isDecimalDigit c = true := fun c hc => isDecimalDigit_of_mem_zero hc
    rw [ofValue?] at h
    split at h
    · cases h
      exact ⟨by simp, hzero, hzero⟩
    · cases h
      exact shaped_ofDecimal l negative _
  | _ => cases h

end Numeral
end Json
end Delegation
