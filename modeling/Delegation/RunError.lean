import Delegation.Symbol
/-!
# Errors of compilation and execution
-/

namespace Delegation

/-- Why a runner could not be built or did not finish. -/
inductive RunError where
  /-- The compiler rejected a subgraph. -/
  | compilation (reason : String)
  /-- A compiled runner failed while it executed. -/
  | execution (reason : String)
  /-- A fusion node of this kind carries no subgraph. -/
  | missingSubgraph (kind : Symbol)
  /-- A fault of the values involved. -/
  | fault (fault : Fault)
deriving DecidableEq, Repr

/-- The text of an error; a fault keeps its own. -/
def RunError.message : RunError → String
  | .compilation reason => "Compilation failed: " ++ reason
  | .execution reason => "Execution failed: " ++ reason
  | .missingSubgraph kind => "Node " ++ kind.qualified ++ " has no subgraph attribute"
  | .fault f => f.message

end Delegation
