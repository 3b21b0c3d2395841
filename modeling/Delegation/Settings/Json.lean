import Delegation.Json.Reader
import Delegation.Json.Writer
import Delegation.Settings
/-!
# Settings as JSON

Settings are written as an object with all five fields.  When they are read, each field may be
left out and then has its default, fields of other names are ignored, and a field of one of the
five names may not be repeated.  An array gives the fields in their order, as many as it has.
-/

namespace Delegation.Settings

/-- Settings as a document. -/
def toJson (s : Settings) : Json :=
  .ofFields [
    ("pre_compile", .bool s.preCompile),
    ("enable_signal_handler_overrides", .bool s.signalOverrides),
    ("fusion_enabled", .bool s.fusionEnabled),
    ("min_fusion_group_size", .number (.ofNat s.minGroupSize.toNat)),
    ("op_blacklist", .array (s.blacklist.map Json.ofString))]

/-- The texts of an array of strings. -/
def textsOfJson? : Json → Option (List String)
  | .array items => items.mapM Json.asString?
  | _ => none

/-- A field that may be left out, has a default, and may not be repeated. -/
def field? {α : Type} (read : Json → Option α) (default : α) : List Json → Option α
  | [] => some default
  | [document] => read document
  | _ => none

/-- The settings with the given documents for the five fields. -/
def ofParts? (preCompile signalOverrides fusionEnabled minGroupSize blacklist : List Json) :
    Option Settings := do
  let base : Settings := {}
  pure {
    preCompile := ← field? Json.asBool? base.preCompile preCompile
    signalOverrides := ← field? Json.asBool? base.signalOverrides signalOverrides
    fusionEnabled := ← field? Json.asBool? base.fusionEnabled fusionEnabled
    minGroupSize := ← field? Json.asWord? base.minGroupSize minGroupSize
    blacklist := ← field? textsOfJson? base.blacklist blacklist }

/-- The settings of a document. -/
def ofJson? : Json → Option Settings
  | .object fields => do
    let _ ← fields.mapM Prod.fst
    let all := Json.lookupAll fields
    ofParts? (all "pre_compile") (all "enable_signal_handler_overrides") (all "fusion_enabled")
      (all "min_fusion_group_size") (all "op_blacklist")
  | .array items =>
    let nth (i : Nat) : List Json := (items[i]?).toList
    if items.length ≤ 5 then ofParts? (nth 0) (nth 1) (nth 2) (nth 3) (nth 4) else none
  | _ => none

/-- The settings written by a text. -/
def parse? (text : String) : Option Settings :=
  (Json.parse text).bind ofJson?

/-- The compact text of settings. -/
def render (s : Settings) : String :=
  s.toJson.compact

end Delegation.Settings
