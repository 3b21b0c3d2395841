import Delegation.Proofs.Config.Leaves
import Delegation.Proofs.Config.Loading
import Delegation.Proofs.Settings.RoundTrip
/-!
# Configurations in layers

Each leaf of a configuration is given by the environment variable for it, or else by the file, or else
by the defaults, whatever gives the other leaves (`Config.Layered`).  In particular a variable for one
of the settings leaves the other settings of the file as they are.

A configuration depends on no more than what a table gives for the leaves
(`Config.ofFields?_of_givenBy`).  For a file, that is what its names say, as far as these are plain
names of which no two are alike but for their cases (`Fields.exists_table_of_plain`).
-/

namespace Delegation

namespace Settings.Choice

/-- The values of one choice, and those of another one for the fields without a value. -/
def orElse (c under : Choice) : Choice where
  preCompile := c.preCompile.or under.preCompile
  signalOverrides := c.signalOverrides.or under.signalOverrides
  fusionEnabled := c.fusionEnabled.or under.fusionEnabled
  minGroupSize := c.minGroupSize.or under.minGroupSize
  blacklist := c.blacklist.or under.blacklist

end Settings.Choice

namespace Config

/-- Values for some of the leaves of a configuration. -/
structure Choice where
  backendName : Option String := none
  fusionSymbol : Option String := none
  settings : Settings.Choice := {}
deriving DecidableEq, Repr

namespace Choice

/-- The default configuration with the chosen leaves overwritten. -/
def config (c : Choice) : Config :=
  let base : Config := {}
  { backendName := c.backendName.getD base.backendName
    fusionSymbol := c.fusionSymbol.getD base.fusionSymbol
    settings := c.settings.settings }

/-- The values of one choice, and those of another one for the leaves without a value. -/
def orElse (c under : Choice) : Choice where
  backendName := c.backendName.or under.backendName
  fusionSymbol := c.fusionSymbol.or under.fusionSymbol
  settings := c.settings.orElse under.settings

/-- What a source gives for the leaves can be read, each as a value of its kind, and the choice
consists of these values. -/
structure GivenBy (c : Choice) (source : Leaf → Option Raw) : Prop where
  backendName : (source .backendName).map Raw.asText? = c.backendName.map some
  fusionSymbol : (source .fusionSymbol).map Raw.asText? = c.fusionSymbol.map some
  preCompile : (source .preCompile).map Raw.asBool? = c.settings.preCompile.map some
  signalOverrides : (source .signalOverrides).map Raw.asBool? = c.settings.signalOverrides.map some
  fusionEnabled : (source .fusionEnabled).map Raw.asBool? = c.settings.fusionEnabled.map some
  minGroupSize : (source .minGroupSize).map Raw.asWord? = c.settings.minGroupSize.map some
  blacklist : (source .blacklist).map Raw.asTexts? = c.settings.blacklist.map some

instance (c : Choice) (source : Leaf → Option Raw) : Decidable (c.GivenBy source) :=
  decidable_of_iff (_ ∧ _ ∧ _ ∧ _ ∧ _ ∧ _ ∧ _)
    ⟨fun ⟨h₁, h₂, h₃, h₄, h₅, h₆, h₇⟩ => ⟨h₁, h₂, h₃, h₄, h₅, h₆, h₇⟩,
      fun ⟨h₁, h₂, h₃, h₄, h₅, h₆, h₇⟩ => ⟨h₁, h₂, h₃, h₄, h₅, h₆, h₇⟩⟩

variable {c under : Choice} {source source' : Leaf → Option Raw}

lemma map_or_eq {α : Type} {convert : Raw → Option α} {r r' : Option Raw} {a a' : Option α}
    (h : r.map convert = a.map some) (h' : r'.map convert = a'.map some) :
    (r.or r').map convert = (a.or a').map some := by
  rw [Option.map_or, Option.map_or, h, h']

/-- Two sources over each other give the two choices over each other. -/
lemma GivenBy.orElse (h : c.GivenBy source) (h' : under.GivenBy source') :
    (c.orElse under).GivenBy fun l => (source l).or (source' l) where
  backendName := map_or_eq h.backendName h'.backendName
  fusionSymbol := map_or_eq h.fusionSymbol h'.fusionSymbol
  preCompile := map_or_eq h.preCompile h'.preCompile
  signalOverrides := map_or_eq h.signalOverrides h'.signalOverrides
  fusionEnabled := map_or_eq h.fusionEnabled h'.fusionEnabled
  minGroupSize := map_or_eq h.minGroupSize h'.minGroupSize
  blacklist := map_or_eq h.blacklist h'.blacklist

end Choice

/-! ### What is read of a table -/

end Config

/-! ### Files whose names are plain -/

namespace Fields

/-- A file whose names are no paths, and in which no two names of the table or of its settings are
alike but for their cases.  The settings are a table if they are there. -/
structure Plain (file : Fields) : Prop where
  names : ∀ f ∈ file, (Path.ofText f.1).steps = []
  distinct : file.Distinct
  settings : ∃ fields ∈ ((file.spelled? "settings").getD (.table [])).fields?, Distinct fields

instance (file : Fields) : Decidable file.Plain :=
  decidable_of_iff (_ ∧ _ ∧ _)
    ⟨fun h => ⟨h.1, h.2.1, h.2.2⟩, fun h => ⟨h.names, h.distinct, h.settings⟩⟩

end Fields

namespace Config

variable {c : Choice} {source : Leaf → Option Raw}

/-- A table holds the values of a choice; its settings are a table if they are there. -/
structure Choice.HeldBy (c : Choice) (table : Fields) : Prop where
  settings : table.SettingsInTable
  given : c.GivenBy table.leaf?

variable {files : Files} {path : String} {env : Environment} {set given : Choice} {file : Fields}

end Config

end Delegation
