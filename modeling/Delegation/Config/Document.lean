import Delegation.Config.Basic
import Delegation.Yaml.Node.Parser
import Delegation.Yaml.Node.Record
/-!
# Configurations as YAML

A configuration is a mapping, and its settings are one too.  Fields that are left out have their
defaults, fields of other names are ignored, and no field may be repeated.  A text without any
document is the default configuration; a text with several documents is refused.
-/

namespace Delegation

/-- The settings that a node gives. -/
def Settings.ofNode? (node root : Yaml.Node) : Option Settings := do
  let r ← node.record? root
  let base : Settings := {}
  pure {
    preCompile := ← r.field? Yaml.Node.bool? "pre_compile" base.preCompile
    signalOverrides := ←
      r.field? Yaml.Node.bool? "enable_signal_handler_overrides" base.signalOverrides
    fusionEnabled := ← r.field? Yaml.Node.bool? "fusion_enabled" base.fusionEnabled
    minGroupSize := ← r.field? Yaml.Node.word? "min_fusion_group_size" base.minGroupSize
    blacklist := ← r.field? Yaml.Node.texts? "op_blacklist" base.blacklist }

namespace Config

/-- The configuration that a node gives. -/
def ofNode? (node root : Yaml.Node) : Option Config := do
  let r ← node.record? root
  let base : Config := {}
  pure {
    backendName := ← r.field? Yaml.Node.text? "backend_name" base.backendName
    fusionSymbol := ← r.field? Yaml.Node.text? "fusion_symbol" base.fusionSymbol
    settings := ← r.field? Settings.ofNode? "settings" base.settings }

/-- The configuration that a text gives, before it is checked. -/
def ofYaml? (text : String) : Option Config :=
  match Yaml.documents? text with
  | some [] => some {}
  | some [root] => ofNode? root root
  | _ => none

/-- The configuration that a text gives, if it passes its checks. -/
def parseYaml (text : String) : Except SetupError Config :=
  match ofYaml? text with
  | some c => c.validated
  | none => .error .document

end Config

end Delegation
