import Delegation.Interception
/-!
# Runners that follow a script

A scripted runner does one of three things: it negates the tensor on top of the stack, it fails
with a given reason, or it panics.
-/

namespace Delegation.Scripted

/-- What a scripted runner does. -/
inductive Behaviour where
  /-- Negate every element of the tensor on top of the stack. -/
  | negate
  /-- Fail with a reason. -/
  | fail (reason : String)
  /-- Panic. -/
  | panic
deriving DecidableEq, Repr

/-- Negate the tensor on top of the stack.  A value that was taken is gone unless it comes back
negated. -/
def negateTop (s : Stack) : Exit Fault Unit × Stack :=
  match s.pop with
  | .error e => (.failed e, s)
  | .ok (v, s') =>
    match (Exit.ofExcept v.asTensor).bind (Tensor.mapData Single.neg) with
    | .returned t => (.returned (), s'.push (.tensor t))
    | .failed e => (.failed e, s')
    | .panicked m => (.panicked m, s')

/-- Run a script on the stack. -/
def run (b : Behaviour) (s : Stack) : Exit RunError Unit × Stack :=
  match b with
  | .negate => ((negateTop s).1.mapError .fault, (negateTop s).2)
  | .fail reason => (.failed (.execution reason), s)
  | .panic => (.panicked "runner crashed", s)

end Delegation.Scripted
