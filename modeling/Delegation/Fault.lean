/-!
# Faults of values, names and settings

What can be wrong with the data that a host hands over for delegation, before any compiled code is
involved.
-/

namespace Delegation

/-- A defect of a symbol, a stack, a value, a tensor or a settings record. -/
inductive Fault where
  /-- The text is not a namespace and a name joined by a double colon. -/
  | invalidSymbol (text : String)
  /-- Fewer values on the stack than asked for. -/
  | stackUnderflow (needed available : Nat)
  /-- A value of another type than asked for. -/
  | typeMismatch (expected found : String)
  /-- The data of a tensor does not match its shape. -/
  | invalidTensor (reason : String)
  /-- A settings record that no installation accepts. -/
  | invalidSettings (reason : String)
deriving DecidableEq, Repr

/-- The text of a fault. -/
def Fault.message : Fault → String
  | .invalidSymbol text => "Invalid symbol: " ++ text
  | .stackUnderflow needed available =>
    "Stack underflow: needed " ++ toString needed ++ " values, found " ++ toString available
  | .typeMismatch expected found =>
    "Type mismatch: expected " ++ expected ++ ", found " ++ found
  | .invalidTensor reason => "Invalid tensor: " ++ reason
  | .invalidSettings reason => "Invalid settings: " ++ reason

end Delegation
