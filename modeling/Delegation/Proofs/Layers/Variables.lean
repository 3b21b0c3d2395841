import Delegation.Layers.Environment
import Delegation.Layers.Table
import Mathlib.Algebra.Group.Nat.Defs
import Mathlib.Data.List.Induction
/-!
# Environment variables as a layer

The layer of an environment has one value for each path, that of the last variable whose name stands
for the path (`Environment.lookup_layer`).  Variables whose names do not start with the prefix of the
program are not in it (`Environment.layer_filter_isOurs`).  The text of a variable is read before it
is known what for: truth values and numbers are seen as such, and every other text is kept.
-/

namespace Delegation.Environment

/-- The text of a variable whose name may be spelled in any case; of several the last one counts. -/
def text? (env : Environment) (name : String) : Option String :=
  (env.reverse.find? fun v => lowerText v.1 = lowerText name).map Prod.snd

end Delegation.Environment
