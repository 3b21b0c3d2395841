import Delegation.Config.Load
import Delegation.Proofs.Host.Installation
/-!
# Loaded configurations

There are four ways to load a configuration.  They read different sources with different readers, and
two of them fall back to the default configuration where sources are unreadable, but none returns a
configuration that has not passed the check (`Config.Loader.validate_of_returned`).  Such a
configuration can be installed unless its symbol is taken, and no other one can
(`Config.loaded_installable`).
-/

namespace Delegation

lemma Exit.ofExcept_eq_returned {ε α : Type} {x : Except ε α} {a : α} :
    Exit.ofExcept x = .returned a ↔ x = .ok a := by
  cases x <;> simp [Exit.ofExcept]

lemma Exit.bind_eq_returned {ε α β : Type} {x : Exit ε α} {f : α → Exit ε β} {b : β} :
    x >>= f = .returned b ↔ ∃ a, x = .returned a ∧ f a = .returned b := by
  cases x <;> simp [Bind.bind, Exit.bind]

namespace Config

/-! ### Four ways to load -/

/-- A way to load a configuration, with the sources that it reads. -/
inductive Loader where
  /-- From a YAML text. -/
  | text (written : String)
  /-- From a YAML file alone. -/
  | file (files : Files) (path : String)
  /-- From a file and the environment variables. -/
  | layers (files : Files) (env : Environment) (path : String)
  /-- From the usual files and the environment variables. -/
  | usual (files : Files) (env : Environment)
deriving Repr

/-- Load. -/
def Loader.run : Loader → Exit SetupError Config
  | text written => Exit.ofExcept (parseYaml written)
  | file files path => Exit.ofExcept (fromFile files path)
  | layers files env path => loadFrom files env path
  | usual files env => load files env

lemma validate_of_validated {c c' : Config} (h : c'.validated = .ok c) : c.validate = .ok () := by
  rw [validated] at h
  cases hvalid : c'.validate with
  | error e =>
    rw [hvalid] at h
    cases h
  | ok u =>
    rw [hvalid] at h
    cases h
    exact hvalid

lemma validate_of_parseYaml {text : String} {c : Config} (h : parseYaml text = .ok c) :
    c.validate = .ok () := by
  rw [parseYaml] at h
  split at h
  · exact validate_of_validated h
  · cases h

lemma validate_of_fromFile {files : Files} {path : String} {c : Config}
    (h : fromFile files path = .ok c) : c.validate = .ok () := by
  rw [fromFile] at h
  split at h
  · exact validate_of_parseYaml h
  · cases h

lemma validate_of_loadFrom {files : Files} {env : Environment} {path : String} {c : Config}
    (h : loadFrom files env path = .returned c) : c.validate = .ok () := by
  obtain ⟨c', -, hc⟩ := Exit.bind_eq_returned.mp h
  exact validate_of_validated (Exit.ofExcept_eq_returned.mp hc)

/-- **Whatever is loaded has passed the check.** -/
lemma Loader.validate_of_returned {loader : Loader} {c : Config} (h : loader.run = .returned c) :
    c.validate = .ok () := by
  cases loader with
  | text written => exact validate_of_parseYaml (Exit.ofExcept_eq_returned.mp h)
  | file files path => exact validate_of_fromFile (Exit.ofExcept_eq_returned.mp h)
  | layers files env path => exact validate_of_loadFrom h
  | usual files env =>
    obtain ⟨env', -, hload⟩ := Exit.bind_eq_returned.mp h
    exact validate_of_loadFrom hload

/-! ### Installing what was loaded -/

/-- A configuration that can be installed. -/
structure Installable (c : Config) : Prop where
  /-- Something is left of the backend name when white space is trimmed. -/
  backendNamed : dropBlanksRight (dropBlanks c.backendName.toList) ≠ []
  /-- Groups hold at least one node. -/
  groupsNonempty : 1 ≤ c.settings.minGroupSize.toNat
  /-- The symbol can be read and is written as it was, and an installation with the configuration
  fails exactly if the symbol is taken. -/
  installs : ∃ s, Symbol.parse c.fusionSymbol = .ok s ∧ c.symbol = .ok s ∧ c.withSymbol s = c ∧
    ∀ (σ ρ η : Type) (i : Installation σ ρ η) t w, i.config = c →
      ∀ e, (i.install t w).1 = .error e ↔
        t.operators.contains s = true ∧ e = .duplicateOperator s.qualified

/-- A configuration that is refused for a condition, by the check and by every installation. -/
structure Refused (c : Config) (k : Condition) : Prop where
  /-- No condition in front of it is violated. -/
  first : c.FirstViolated k
  /-- The check reports it. -/
  validate : c.validate = .error (k.error c)
  /-- Installations report it and do nothing. -/
  install : ∀ (σ ρ η : Type) (i : Installation σ ρ η) t w, i.config = c →
    i.install t w = (.error (k.error c), t, w)

lemma installable_of_validate {c : Config} (h : c.validate = .ok ()) : c.Installable where
  backendNamed := validate_eq_ok_iff.mp h .backendNamed
  groupsNonempty := validate_eq_ok_iff.mp h .groupsNonempty
  installs := by
    obtain ⟨s, hs, hwritten⟩ := exists_symbol_of_validate h
    refine ⟨s, symbol_eq_ok_iff.mp hs, hs, hwritten, ?_⟩
    rintro σ ρ η i t w rfl e
    rw [Installation.install_eq_error_iff, h, hs]
    simp

lemma refused_of_firstViolated {c : Config} {k : Condition} (h : c.FirstViolated k) :
    c.Refused k where
  first := h
  validate := validate_of_firstViolated h
  install := by
    rintro σ ρ η i t w rfl
    exact Installation.install_of_invalid (validate_of_firstViolated h) w

/-- **Loaded configurations can be installed**, in whichever way they are loaded; and a configuration
that violates a condition is refused for the first one that it violates. -/
theorem loaded_installable :
    (∀ (loader : Loader) (c : Config), loader.run = .returned c → c.Installable) ∧
      ∀ c : Config, (∃ k : Condition, ¬ k.Holds c) → ∃ k, c.Refused k := by
  refine ⟨fun loader c h => installable_of_validate (Loader.validate_of_returned h), ?_⟩
  rintro c ⟨k, hk⟩
  rcases c.holds_or_firstViolated with hall | ⟨k', hk'⟩
  · exact absurd (hall k) hk
  · exact ⟨k', refused_of_firstViolated hk'⟩

/-- A text is loaded, and a configuration with a blank backend name is refused. -/
theorem loaded_installable_or_blank :
    (Loader.text "backend_name: NNPI\nfusion_symbol: glow::FusionGroup\n").run =
        .returned { backendName := "NNPI", fusionSymbol := "glow::FusionGroup" } ∧
      Installable { backendName := "NNPI", fusionSymbol := "glow::FusionGroup" } ∧
      ∃ k, Refused { backendName := " " } k := by
  have hrun : (Loader.text "backend_name: NNPI\nfusion_symbol: glow::FusionGroup\n").run =
      .returned { backendName := "NNPI", fusionSymbol := "glow::FusionGroup" } := by
    decide +kernel
  refine ⟨hrun, loaded_installable.1 _ _ hrun, loaded_installable.2 _ ⟨.backendNamed, ?_⟩⟩
  intro hnamed
  exact hnamed (by decide)

end Config

end Delegation
