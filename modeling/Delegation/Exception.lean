/-!
# Host exceptions

The host takes exceptions, not error values, at its call boundary.  A host exception is the only
kind of error that crosses that boundary.
-/

namespace Delegation

/-- The class of an exception raised into the host. -/
inductive HostException.Kind where
  /-- A delegated execution failed. -/
  | invalidArgument
  /-- An operation could not be prepared. -/
  | runtime
deriving DecidableEq, Repr

/-- The name of the class, as the host knows it. -/
def HostException.Kind.label : HostException.Kind → String
  | .invalidArgument => "invalid_argument"
  | .runtime => "runtime_error"

/-- An exception raised into the host. -/
structure HostException where
  /-- Its class. -/
  kind : HostException.Kind
  /-- Its text, which is all that is shown of it. -/
  message : String
deriving DecidableEq, Repr

end Delegation
