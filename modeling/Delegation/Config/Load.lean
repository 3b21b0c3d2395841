import Delegation.Config.Document
import Delegation.Layers.Dotenv
import Delegation.Layers.Path
import Delegation.Layers.Source
/-!
# Loading configurations

A configuration is made of layers: its defaults, then a file, then environment variables.  A field
of a later layer takes the place of the field of an earlier one.  If the file cannot be read, no
layer counts, and the configuration is the default one.  A layer that gives a value of the wrong
kind for a field is an error.
-/

namespace Delegation

/-- A field that may be left out and has a default. -/
def Fields.read? {α : Type} (fields : Fields) (convert : Raw → Option α) (name : String)
    (default : α) : Option α :=
  match fields.get? name with
  | some value => convert value
  | none => some default

namespace Settings

/-- The settings that fields give. -/
def ofFields? (fields : Fields) : Option Settings := do
  let base : Settings := {}
  pure {
    preCompile := ← fields.read? Raw.asBool? "pre_compile" base.preCompile
    signalOverrides :=
      ← fields.read? Raw.asBool? "enable_signal_handler_overrides" base.signalOverrides
    fusionEnabled := ← fields.read? Raw.asBool? "fusion_enabled" base.fusionEnabled
    minGroupSize := ← fields.read? Raw.asWord? "min_fusion_group_size" base.minGroupSize
    blacklist := ← fields.read? Raw.asTexts? "op_blacklist" base.blacklist }

/-- The names of the fields in their order. -/
def fieldNames : List String :=
  ["pre_compile", "enable_signal_handler_overrides", "fusion_enabled", "min_fusion_group_size",
    "op_blacklist"]

/-- The settings that a value gives: a table, or a list of the fields in their order. -/
def ofRaw? : Raw → Option Settings
  | .table fields => ofFields? fields
  | .list items => ofFields? (fieldNames.zip items)
  | _ => none

end Settings

namespace Config

/-- The configuration that fields give. -/
def ofFields? (fields : Fields) : Option Config := do
  let base : Config := {}
  pure {
    backendName := ← fields.read? Raw.asText? "backend_name" base.backendName
    fusionSymbol := ← fields.read? Raw.asText? "fusion_symbol" base.fusionSymbol
    settings := ← fields.read? Settings.ofRaw? "settings" base.settings }

/-- The fields that the layers give together, if the file can be read. -/
def layers (files : Files) (env : Environment) (path : String) : Exit Unreadable Fields := do
  let file ← (Source.find files path).layer
  let fields ← Fields.over [] file
  fields.over env.layer

/-- The configuration that the layers give, before it is checked. -/
def ofLayers : Exit Unreadable Fields → Exit SetupError Config
  | .failed _ => .returned {}
  | .panicked m => .panicked m
  | .returned fields =>
    match ofFields? fields with
    | some c => .returned c
    | none => .failed .source

/-- Load a configuration from a file and the environment variables. -/
def loadFrom (files : Files) (env : Environment) (path : String) : Exit SetupError Config := do
  let c ← ofLayers (layers files env path)
  Exit.ofExcept c.validated

/-- The file that holds assignments of environment variables. -/
def assignmentsPath : String :=
  ".env"

/-- The file that holds the configuration if no other is named. -/
def defaultPath : String :=
  "config/fusebox"

/-- Load a configuration from the usual files and the environment variables. -/
def load (files : Files) (env : Environment) : Exit SetupError Config := do
  let env ← Dotenv.apply ((files.get? assignmentsPath).getD "") env
  loadFrom files env defaultPath

/-- Read a configuration from a YAML file alone. -/
def fromFile (files : Files) (path : String) : Except SetupError Config :=
  match files.get? path with
  | some text => parseYaml text
  | none => .error .file

end Config

end Delegation
