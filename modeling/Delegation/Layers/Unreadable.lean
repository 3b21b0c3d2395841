import Delegation.Exit
/-!
# Files that give no layer
-/

namespace Delegation

/-- Why a file gives no layer. -/
inductive Unreadable where
  /-- Its text is not well-formed, or writes something else than a table. -/
  | noTable
deriving DecidableEq, Repr

end Delegation
