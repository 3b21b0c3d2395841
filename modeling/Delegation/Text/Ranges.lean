/-!
# Ranges of characters

A property of characters, given by the ranges of codes that have it.
-/

namespace Delegation

/-- Ranges of character codes, each with its first and its last code. -/
abbrev CodeRanges := Array (Nat × Nat)

/-- Whether the code of a character lies in one of the ranges. -/
def CodeRanges.has (ranges : CodeRanges) (c : Char) : Bool :=
  ranges.any fun r => r.1 ≤ c.toNat && c.toNat ≤ r.2

end Delegation
