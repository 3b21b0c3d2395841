import Delegation.Context
import Delegation.SetupError
import Delegation.Text.Blank
/-!
# Configurations

A configuration names a backend and the symbol of the fusion operator, and holds the settings for
runners.  It can be installed when the backend name is not blank, the symbol can be read, and the
settings are valid; `Config.validate` reports the first of these that fails.
-/

namespace Delegation

/-- The configuration of an installation. -/
structure Config where
  /-- The backend that runners target. -/
  backendName : String := defaultBackend
  /-- The qualified symbol of the fusion operator. -/
  fusionSymbol : String := "fusebox::FusionGroup"
  /-- The settings for runners. -/
  settings : Settings := {}
deriving DecidableEq, Repr, Inhabited

namespace Config

/-- The symbol of the fusion operator. -/
def symbol (c : Config) : Except SetupError Symbol :=
  (Symbol.parse c.fusionSymbol).mapError .fault

/-- Set the symbol of the fusion operator. -/
def withSymbol (c : Config) (s : Symbol) : Config :=
  { c with fusionSymbol := s.qualified }

/-- Check the backend name, then the symbol, then the settings. -/
def validate (c : Config) : Except SetupError Unit :=
  if isBlankText c.backendName then .error (.config "backend_name is empty")
  else
    match c.symbol with
    | .error e => .error e
    | .ok _ => c.settings.validate.mapError .fault

/-- A configuration that passes its checks. -/
def validated (c : Config) : Except SetupError Config :=
  c.validate.map fun _ => c

end Config

end Delegation
