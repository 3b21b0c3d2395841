import Delegation.Fault
/-!
# Execution settings

The record that is handed, as a snapshot, to every runner when it is built.
-/

namespace Delegation

/-- Settings read when a compiled runner is built. -/
structure Settings where
  /-- Assume that the runner was compiled ahead of time and only execute it. -/
  preCompile : Bool := false
  /-- Put SIGINT and SIGTERM back to default handling around delegated execution. -/
  signalOverrides : Bool := true
  /-- Whether the fusion pass marks subgraphs at all. -/
  fusionEnabled : Bool := true
  /-- The length of the shortest run of supported nodes worth delegating. -/
  minGroupSize : UInt64 := 1
  /-- The qualified names of the kinds that the fuser must never absorb. -/
  blacklist : List String := []
deriving DecidableEq, Repr, Inhabited

namespace Settings

/-- Whether a qualified name is on the blacklist. -/
def isBlacklisted (s : Settings) (qualified : String) : Bool :=
  s.blacklist.contains qualified

/-- Groups of no node at all make no sense. -/
def validate (s : Settings) : Except Fault Unit :=
  if s.minGroupSize = 0 then
    .error (.invalidSettings "min_fusion_group_size must be at least 1")
  else
    .ok ()

end Settings

end Delegation
