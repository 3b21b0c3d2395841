import Delegation.Installation
import Delegation.Proofs.Config.Conditions
/-!
# The three ways in which an installation ends

An installation whose configuration does not pass the check ends at once.  Otherwise its context is
made, and its symbol decides: if the symbol is taken the installation fails, and if the symbol is
free the tables grow.  There is one equation for each way, and `Installation.install_cases` says that
there is no other.  Later files use these and do not open `install`.
-/

namespace Delegation

variable {σ ρ η : Type}

/-! ### Tables that grow -/

namespace OperatorTable

variable {t : OperatorTable σ ρ} {s : Symbol}

lemma contains_eq_true_iff : t.contains s = true ↔ ∃ o ∈ t.entries, o.symbol = s := by
  rw [contains, lookup, List.find?_isSome]
  simp only [decide_eq_true_eq]

lemma contains_eq_false_iff : t.contains s = false ↔ ∀ o ∈ t.entries, o.symbol ≠ s := by
  rw [← Bool.not_eq_true, contains_eq_true_iff]
  simp only [not_exists, not_and, ne_eq]

lemma register_of_taken (h : t.contains s = true) (aliasing : AliasAnalysis)
    (factory : OperationFactory σ ρ) :
    t.register s aliasing factory = .error (.duplicateOperator s.qualified) :=
  if_pos h

lemma register_of_free (h : t.contains s = false) (aliasing : AliasAnalysis)
    (factory : OperationFactory σ ρ) :
    t.register s aliasing factory = .ok ⟨t.entries ++ [⟨s, aliasing, factory⟩]⟩ := by
  rw [register, h]
  rfl

end OperatorTable

/-- The tables with operators and passes added at their ends. -/
def HostTables.extend (t : HostTables σ ρ) (operators : List (RegisteredOperator σ ρ))
    (passes : List (Pass σ ρ)) : HostTables σ ρ :=
  ⟨⟨t.operators.entries ++ operators⟩, ⟨t.passes.passes ++ passes⟩⟩

/-- The entry of an operator that is delegated to a context. -/
def Context.operator (ctx : Context σ ρ η) (s : Symbol) : RegisteredOperator σ ρ :=
  ⟨s, .pureFunction, OperatorTable.delegatedFactory ctx⟩

/-! ### The three ways -/

namespace Installation

/-- The pass that an installation adds, if there is to be one. -/
def pass? (i : Installation σ ρ η) (ctx : Context σ ρ η) (s : Symbol) : Option (Pass σ ρ) :=
  i.chosenFuser.map fun fuser => fusionPass fuser s (i.gate.getD (settingsGate ctx))

variable {i : Installation σ ρ η} {t : HostTables σ ρ} {s : Symbol} {e : SetupError}

/-- There is one pass if a fuser or at least one kind is given, and none otherwise. -/
lemma length_pass? (i : Installation σ ρ η) (ctx : Context σ ρ η) (s : Symbol) :
    (i.pass? ctx s).toList.length = if i.fuser.isSome = true ∨ i.supported ≠ [] then 1 else 0 := by
  rw [pass?, chosenFuser]
  cases i.fuser with
  | some f => rfl
  | none => cases i.supported <;> rfl

lemma install_of_invalid (h : i.config.validate = .error e) (w : World σ ρ) :
    i.install t w = (.error e, t, w) := by
  rw [install, h]

lemma install_of_taken (hvalid : i.config.validate = .ok ()) (hs : i.config.symbol = .ok s)
    (h : t.operators.contains s = true) (w : World σ ρ) :
    i.install t w =
      (.error (.duplicateOperator s.qualified), t, (Context.make i.contextSpec w).2) := by
  rw [install, hvalid, hs]
  simp only [OperatorTable.registerDelegated, OperatorTable.register_of_taken h]

lemma install_of_free (hvalid : i.config.validate = .ok ()) (hs : i.config.symbol = .ok s)
    (h : t.operators.contains s = false) (w : World σ ρ) :
    i.install t w =
      let made := Context.make i.contextSpec w
      (.ok made.1, t.extend [made.1.operator s] (i.pass? made.1 s).toList, made.2) := by
  rw [install, hvalid, hs]
  simp only [OperatorTable.registerDelegated, OperatorTable.register_of_free h, pass?]
  cases i.chosenFuser with
  | none => simp only [Option.map_none, Option.toList_none, HostTables.extend, List.append_nil,
      Context.operator]
  | some fuser => rfl

/-- **There are no other ways.** -/
lemma install_cases (i : Installation σ ρ η) (t : HostTables σ ρ) :
    (∃ e, i.config.validate = .error e) ∨
      ∃ s, i.config.validate = .ok () ∧ i.config.symbol = .ok s ∧
        (t.operators.contains s = true ∨ t.operators.contains s = false) := by
  cases hvalid : i.config.validate with
  | error e => exact Or.inl ⟨e, rfl⟩
  | ok u =>
    obtain ⟨s, hs, -⟩ := Config.exists_symbol_of_validate hvalid
    exact Or.inr ⟨s, rfl, hs, Bool.eq_false_or_eq_true _⟩

/-- **The errors of an installation**: those of its configuration, and that the symbol is taken. -/
lemma install_eq_error_iff {w : World σ ρ} :
    (i.install t w).1 = .error e ↔
      i.config.validate = .error e ∨ i.config.validate = .ok () ∧
        ∃ s, i.config.symbol = .ok s ∧ t.operators.contains s = true ∧
          e = .duplicateOperator s.qualified := by
  obtain ⟨e', hinvalid⟩ | ⟨s, hvalid, hs, htaken | hfree⟩ := i.install_cases t
  · rw [install_of_invalid hinvalid, hinvalid]
    simp
  · rw [install_of_taken hvalid hs htaken, hvalid, hs]
    constructor
    · intro he
      exact Or.inr ⟨rfl, s, rfl, htaken, (Except.error.inj he).symm⟩
    · rintro (hinvalid | ⟨-, s', hs', -, rfl⟩)
      · cases hinvalid
      · rw [Except.ok.inj hs']
  · rw [install_of_free hvalid hs hfree, hvalid, hs]
    simp [hfree]

/-- **A failed installation leaves both tables as they were.** -/
lemma tables_of_install_error {w : World σ ρ} (h : (i.install t w).1 = .error e) :
    (i.install t w).2.1 = t := by
  obtain ⟨e', hinvalid⟩ | ⟨s, hvalid, hs, htaken | hfree⟩ := i.install_cases t
  · rw [install_of_invalid hinvalid]
  · rw [install_of_taken hvalid hs htaken]
  · rw [install_of_free hvalid hs hfree] at h
    cases h

/-- What an installation that succeeds adds to the tables. -/
lemma tables_of_install_ok {w : World σ ρ} {ctx : Context σ ρ η} (h : (i.install t w).1 = .ok ctx) :
    ∃ s, i.config.symbol = .ok s ∧
      (i.install t w).2.1 = t.extend [ctx.operator s] (i.pass? ctx s).toList := by
  obtain ⟨e, hinvalid⟩ | ⟨s, hvalid, hs, htaken | hfree⟩ := i.install_cases t
  · rw [install_of_invalid hinvalid] at h
    cases h
  · rw [install_of_taken hvalid hs htaken] at h
    cases h
  · rw [install_of_free hvalid hs hfree] at h ⊢
    cases h
    exact ⟨s, hs, rfl⟩

end Installation

end Delegation
