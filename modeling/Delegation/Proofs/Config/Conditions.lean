import Delegation.Config.Basic
import Delegation.Proofs.Symbol.Parsing
import Mathlib.Data.List.DropRight
/-!
# The conditions on a configuration

A configuration has to fulfil three conditions: its backend name is not blank, its fusion symbol can
be read, and its groups are not empty.  They are said one by one in `Config.Condition.Holds`, without
the check.  The check succeeds exactly when all of them hold (`Config.validate_eq_ok_iff`), and
otherwise reports the first one that is violated (`Config.validate_of_firstViolated`).
-/

namespace Delegation

/-- White space makes up a whole text exactly when trimming both ends leaves nothing of it. -/
lemma isBlankText_iff {text : String} :
    isBlankText text = true ↔ dropBlanksRight (dropBlanks text.toList) = [] := by
  rw [isBlankText, dropBlanksRight, List.reverse_eq_nil_iff, List.dropWhile_eq_nil_iff,
    List.all_eq_true]
  simp only [List.mem_reverse]
  constructor
  · intro hall c hc
    exact hall c ((List.dropWhile_sublist isBlank).mem hc)
  · intro hkept
    -- The first character that is kept would not be white space.
    have hnone : dropBlanks text.toList = [] := by
      by_contra hne
      have hhead : isBlank ((dropBlanks text.toList).head hne) = false :=
        List.head_dropWhile_not isBlank hne
      rw [hkept _ (List.head_mem hne)] at hhead
      cases hhead
    exact List.dropWhile_eq_nil_iff.mp hnone

namespace Config

/-- What a configuration has to fulfil. -/
inductive Condition where
  /-- The backend has a name. -/
  | backendNamed
  /-- The fusion symbol can be read. -/
  | symbolReadable
  /-- Groups hold at least one node. -/
  | groupsNonempty
deriving DecidableEq, Repr

namespace Condition

/-- The condition holds of a configuration. -/
def Holds (c : Config) : Condition → Prop
  | backendNamed => dropBlanksRight (dropBlanks c.backendName.toList) ≠ []
  | symbolReadable => ∃ s, Symbol.parse c.fusionSymbol = .ok s
  | groupsNonempty => 1 ≤ c.settings.minGroupSize.toNat

/-- The error that reports a violation. -/
def error (c : Config) : Condition → SetupError
  | backendNamed => .config "backend_name is empty"
  | symbolReadable => .fault (.invalidSymbol c.fusionSymbol)
  | groupsNonempty => .fault (.invalidSettings "min_fusion_group_size must be at least 1")

/-- The place of the condition in the order in which they are checked. -/
def place : Condition → Nat
  | backendNamed => 0
  | symbolReadable => 1
  | groupsNonempty => 2

end Condition

/-- The condition is violated, and those in front of it hold. -/
def FirstViolated (c : Config) (k : Condition) : Prop :=
  ¬ k.Holds c ∧ ∀ j : Condition, j.place < k.place → j.Holds c

variable {c : Config}

/-- **Some condition is violated first, if not all hold.** -/
lemma holds_or_firstViolated (c : Config) :
    (∀ k : Condition, k.Holds c) ∨ ∃ k, c.FirstViolated k := by
  by_cases hbackend : Condition.Holds c .backendNamed
  · by_cases hsymbol : Condition.Holds c .symbolReadable
    · by_cases hgroups : Condition.Holds c .groupsNonempty
      · refine Or.inl ?_
        rintro (_ | _ | _)
        · exact hbackend
        · exact hsymbol
        · exact hgroups
      · refine Or.inr ⟨.groupsNonempty, hgroups, ?_⟩
        rintro (_ | _ | _) hplace
        · exact hbackend
        · exact hsymbol
        · exact absurd hplace (Nat.lt_irrefl _)
    · refine Or.inr ⟨.symbolReadable, hsymbol, ?_⟩
      rintro (_ | _ | _) hplace
      · exact hbackend
      · exact absurd hplace (by decide)
      · exact absurd hplace (by decide)
  · refine Or.inr ⟨.backendNamed, hbackend, ?_⟩
    intro j hplace
    exact absurd hplace (Nat.not_lt_zero _)

lemma symbol_eq_ok_iff {s : Symbol} :
    c.symbol = .ok s ↔ Symbol.parse c.fusionSymbol = .ok s := by
  rw [symbol]
  cases Symbol.parse c.fusionSymbol <;> simp [Except.mapError]

lemma isBlankText_of_holds (h : Condition.Holds c .backendNamed) :
    isBlankText c.backendName = false := by
  rw [← Bool.not_eq_true, isBlankText_iff]
  exact h

lemma validate_settings_of_holds (h : Condition.Holds c .groupsNonempty) :
    c.settings.validate = .ok () := by
  refine if_neg ?_
  intro hzero
  rw [Condition.Holds, hzero] at h
  exact absurd h (by decide)

/-- A configuration that fulfils all conditions passes the check. -/
lemma validate_of_holds (h : ∀ k : Condition, k.Holds c) : c.validate = .ok () := by
  obtain ⟨s, hs⟩ := h .symbolReadable
  rw [validate, isBlankText_of_holds (h .backendNamed), symbol_eq_ok_iff.mpr hs,
    validate_settings_of_holds (h .groupsNonempty)]
  rfl

/-- **The check reports the first condition that is violated.** -/
lemma validate_of_firstViolated {k : Condition} (h : c.FirstViolated k) :
    c.validate = .error (k.error c) := by
  obtain ⟨hviolated, hbefore⟩ := h
  cases k with
  | backendNamed =>
    have hblank : isBlankText c.backendName = true := by
      rw [isBlankText_iff]
      by_contra hne
      exact hviolated hne
    rw [validate, hblank]
    rfl
  | symbolReadable =>
    have hsymbol : c.symbol = .error (.fault (.invalidSymbol c.fusionSymbol)) := by
      rw [symbol, Symbol.parse_of_not_read hviolated]
      rfl
    rw [validate, isBlankText_of_holds (hbefore .backendNamed (by decide)), hsymbol]
    rfl
  | groupsNonempty =>
    obtain ⟨s, hs⟩ := hbefore .symbolReadable (by decide)
    have hsize : c.settings.minGroupSize = 0 := by
      rw [Condition.Holds, Nat.not_le, Nat.lt_one_iff] at hviolated
      exact UInt64.toNat_inj.mp hviolated
    rw [validate, isBlankText_of_holds (hbefore .backendNamed (by decide)),
      symbol_eq_ok_iff.mpr hs, Settings.validate, if_pos hsize]
    rfl

/-- **The check succeeds exactly when all conditions hold.** -/
lemma validate_eq_ok_iff : c.validate = .ok () ↔ ∀ k : Condition, k.Holds c := by
  refine ⟨fun hvalid => ?_, validate_of_holds⟩
  rcases c.holds_or_firstViolated with hall | ⟨k, hk⟩
  · exact hall
  · rw [validate_of_firstViolated hk] at hvalid
    cases hvalid

/-- The symbol of a configuration that passes the check can be read, and is written as it was. -/
lemma exists_symbol_of_validate (h : c.validate = .ok ()) :
    ∃ s, c.symbol = .ok s ∧ c.withSymbol s = c := by
  obtain ⟨s, hs⟩ := validate_eq_ok_iff.mp h .symbolReadable
  refine ⟨s, symbol_eq_ok_iff.mpr hs, ?_⟩
  rw [withSymbol, Symbol.qualified_of_parse hs]

end Config

end Delegation
