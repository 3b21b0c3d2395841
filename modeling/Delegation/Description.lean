import Delegation.Passes
import Delegation.Text.Quoted
/-!
# Descriptions for logs

Each kind of object has a one-line description that names its type and shows its fields.
-/

namespace Delegation.Description

/-- A type name with fields in braces. -/
def record (type : String) (fields : List (String × String)) : String :=
  type ++ " \x7b " ++ ", ".intercalate (fields.map fun f => f.1 ++ ": " ++ f.2) ++ " \x7d"

/-- A truth value. -/
def flag (b : Bool) : String :=
  if b then "true" else "false"

/-- A symbol. -/
def symbol (s : Symbol) : String :=
  record "Symbol" [("namespace", Quoted.encode s.space), ("name", Quoted.encode s.name)]

/-- Settings. -/
def settings (s : Settings) : String :=
  record "ExecutionSettings" [
    ("pre_compile", flag s.preCompile),
    ("enable_signal_handler_overrides", flag s.signalOverrides),
    ("fusion_enabled", flag s.fusionEnabled),
    ("min_fusion_group_size", toString s.minGroupSize.toNat),
    ("op_blacklist", Quoted.encodeList s.blacklist)]

variable {σ ρ η : Type}

/-- A cache. -/
def cache (c : Cache ρ) : String :=
  record "RunnerRegistry" [("size", toString c.size)]

/-- A switch. -/
def switch (enabled : Bool) : String :=
  record "SignalOverrides" [("enabled", flag enabled)]

/-- A context with the settings in force. -/
def context (ctx : Context σ ρ η) (w : World σ ρ) : String :=
  record "ShimContext" [
    ("registry", cache (w.caches ctx.cache)),
    ("host_manager", Quoted.encode ctx.host.name),
    ("backend_name", Quoted.encode ctx.backend),
    ("settings", settings (ctx.settings w))]

/-- A delegated operation. -/
def delegatedOperation (engine : Engine σ ρ) (op : DelegatedOperation ρ) (w : World σ ρ) :
    String :=
  record "DelegatedOperation" [
    ("pre_compile", flag (engine.settings op.runner).preCompile),
    ("signal_overrides", flag (w.switches op.switch))]

/-- An entry of the operator table. -/
def registeredOperator (e : RegisteredOperator σ ρ) : String :=
  record "RegisteredOperator" [("symbol", symbol e.symbol), ("alias_analysis", e.aliasing.label)]

/-- An operator table. -/
def operatorTable (t : OperatorTable σ ρ) : String :=
  record "OperatorRegistry" [("operators", toString t.size)]

/-- A pass table. -/
def passTable (t : PassTable σ ρ) : String :=
  record "PassRegistry" [("passes", toString t.size)]

end Delegation.Description
