/-!
# How a call of outside code ends

Compilers, runners and builders belong to other parties.  A call of one of them returns a value,
fails with an error, or panics: control then leaves every caller that does not expect it, and only
the release of held resources still takes place.
-/

namespace Delegation

/-- The three ways in which a call of outside code ends. -/
inductive Exit (ε α : Type) where
  /-- The call gave a value. -/
  | returned (value : α)
  /-- The call failed with an error that its caller handles. -/
  | failed (error : ε)
  /-- The call panicked. -/
  | panicked (message : String)
deriving DecidableEq, Repr

namespace Exit

variable {ε ε' α β : Type}

/-- Change the value of a call that returned. -/
def map (f : α → β) : Exit ε α → Exit ε β
  | returned a => returned (f a)
  | failed e => failed e
  | panicked m => panicked m

/-- Change the error of a call that failed. -/
def mapError (f : ε → ε') : Exit ε α → Exit ε' α
  | returned a => returned a
  | failed e => failed (f e)
  | panicked m => panicked m

/-- Continue with the value of a call that returned. -/
def bind : Exit ε α → (α → Exit ε β) → Exit ε β
  | returned a, f => f a
  | failed e, _ => failed e
  | panicked m, _ => panicked m

instance : Monad (Exit ε) where
  pure := returned
  bind := bind

/-- A call that returns a value if there is one, and fails otherwise. -/
def ofOption (error : ε) : Option α → Exit ε α
  | some a => returned a
  | none => failed error

/-- A call that returns the value of a result, or fails with its error. -/
def ofExcept : Except ε α → Exit ε α
  | .ok a => returned a
  | .error e => failed e

/-- The value of a call that returned. -/
def value? : Exit ε α → Option α
  | returned a => some a
  | _ => none

end Exit

end Delegation
