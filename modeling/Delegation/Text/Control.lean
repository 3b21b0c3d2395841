/-!
# Control characters

The characters of Unicode category Cc: the two blocks of codes below the space and around the
delete character.
-/

namespace Delegation

/-- Category Cc of Unicode: U+0000 to U+001F and U+007F to U+009F. -/
def isControl (c : Char) : Bool :=
  c.toNat ≤ 0x1f || (0x7f ≤ c.toNat && c.toNat ≤ 0x9f)

end Delegation
