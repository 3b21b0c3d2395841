/-!
# Hexadecimal bytes

Each byte is written as two lower-case digits.
-/

namespace Delegation.Hex

/-- The lower-case hexadecimal digit of a number below sixteen. -/
def digit (n : Nat) : Char :=
  if n < 10 then Char.ofNat (48 + n) else Char.ofNat (87 + n)

/-- The number denoted by a hexadecimal digit of either case. -/
def digitValue? (c : Char) : Option Nat :=
  let n := c.toNat
  if 48 ≤ n ∧ n ≤ 57 then some (n - 48)
  else if 97 ≤ n ∧ n ≤ 102 then some (n - 87)
  else if 65 ≤ n ∧ n ≤ 70 then some (n - 55)
  else none

/-- The two digits of a byte. -/
def ofByte (b : UInt8) : List Char :=
  [digit (b.toNat / 16), digit (b.toNat % 16)]

/-- The digits of a sequence of bytes. -/
def ofBytes (bytes : List UInt8) : List Char :=
  bytes.flatMap ofByte

/-- The bytes behind pairs of digits. -/
def toBytes? : List Char → Option (List UInt8)
  | [] => some []
  | a :: b :: rest => do
    let high ← digitValue? a
    let low ← digitValue? b
    let bytes ← toBytes? rest
    pure (UInt8.ofNat (16 * high + low) :: bytes)
  | [_] => none

/-- The number denoted by a sequence of hexadecimal digits. -/
def toNat? (digits : List Char) : Option Nat :=
  digits.foldlM (fun n c => (digitValue? c).map (16 * n + ·)) 0

/-- The character of a code, if there is one. -/
def charOfCode? (n : Nat) : Option Char :=
  if n < 0xd800 ∨ (0xe000 ≤ n ∧ n ≤ 0x10ffff) then some (Char.ofNat n) else none

/-- The character whose code is denoted by digits, if there is one. -/
def toChar? (digits : List Char) : Option Char :=
  (toNat? digits).bind charOfCode?

/-- A number in exactly `width` lower-case digits, the leading ones dropped if there are more. -/
def ofNat (width n : Nat) : List Char :=
  (List.range width).reverse.map fun i => digit (n / Nat.pow 16 i % 16)

/-- A number in as few lower-case digits as possible. -/
def ofNatShort (n : Nat) : List Char :=
  Nat.toDigits 16 n

end Delegation.Hex
