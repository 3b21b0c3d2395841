/-!
# Binary floating-point numbers by their bits

A number is kept as its bits, so that two numbers are the same exactly when their bits are.
Arithmetic is that of the machine; the sign of a number is changed on the bits.
-/

namespace Delegation

/-- The widths of the two fields below the sign bit of a binary format. -/
structure BinaryFormat where
  /-- The number of bits of the fraction. -/
  fractionBits : Nat
  /-- The number of bits of the exponent. -/
  exponentBits : Nat

/-- A finite number is `significand · 2 ^ exponent`, with its sign. -/
inductive BinaryValue where
  /-- Not a number. -/
  | nan
  /-- An infinity. -/
  | infinite (negative : Bool)
  /-- A finite number. -/
  | finite (negative : Bool) (significand : Nat) (exponent : Int)
deriving DecidableEq, Repr

namespace BinaryFormat

/-- The format of 32 bits. -/
def single : BinaryFormat := ⟨23, 8⟩

/-- The format of 64 bits. -/
def double : BinaryFormat := ⟨52, 11⟩

/-- The exponent of the smallest numbers of a format. -/
def leastExponent (f : BinaryFormat) : Int :=
  2 - (Nat.pow 2 (f.exponentBits - 1) : Nat) - f.fractionBits

/-- The value with the given bits. -/
def decode (f : BinaryFormat) (bits : Nat) : BinaryValue :=
  let fraction := bits % Nat.pow 2 f.fractionBits
  let biased := bits / Nat.pow 2 f.fractionBits % Nat.pow 2 f.exponentBits
  let negative := bits / Nat.pow 2 (f.fractionBits + f.exponentBits) % 2 == 1
  if biased = Nat.pow 2 f.exponentBits - 1 then
    if fraction = 0 then .infinite negative else .nan
  else if biased = 0 then
    .finite negative fraction f.leastExponent
  else
    .finite negative (Nat.pow 2 f.fractionBits + fraction) (f.leastExponent + (biased - 1))

/-- The bits of the positive infinity. -/
def infinity (f : BinaryFormat) : Nat :=
  (Nat.pow 2 f.exponentBits - 1) * Nat.pow 2 f.fractionBits

/-- The whole number nearest to `n / 2 ^ k`; of two, the even one. -/
def shiftNearest (n k : Nat) : Nat :=
  let whole := n / Nat.pow 2 k
  let twice := 2 * (n % Nat.pow 2 k)
  if Nat.pow 2 k < twice ∨ twice = Nat.pow 2 k ∧ whole % 2 = 1 then whole + 1 else whole

/-- The bits of the number nearest to `significand · 2 ^ exponent`; of two, the one with an even
significand.  A significand that is rounded up to the next power of two carries into the exponent,
and past the greatest number into infinity. -/
def encode (f : BinaryFormat) (negative : Bool) (significand : Nat) (exponent : Int) : Nat :=
  let place := max (exponent + Nat.log2 significand - f.fractionBits) f.leastExponent
  let rounded :=
    if exponent ≤ place then shiftNearest significand (place - exponent).toNat
    else significand * Nat.pow 2 (exponent - place).toNat
  let magnitude :=
    if significand = 0 then 0
    else min ((place - f.leastExponent).toNat * Nat.pow 2 f.fractionBits + rounded) f.infinity
  if negative then Nat.pow 2 (f.fractionBits + f.exponentBits) + magnitude else magnitude

end BinaryFormat

/-- A number of the 64-bit format. -/
structure Double where
  /-- Its bits. -/
  bits : UInt64
deriving DecidableEq, Repr

namespace Double

/-- The value of the bits. -/
def value (x : Double) : BinaryValue :=
  BinaryFormat.double.decode x.bits.toNat

/-- Whether the number is neither infinite nor something else than a number. -/
def isFinite (x : Double) : Bool :=
  match x.value with
  | .finite _ _ _ => true
  | _ => false

/-- The number as the machine computes with it. -/
def toFloat (x : Double) : Float :=
  Float.ofBits x.bits

/-- A number that the machine computed. -/
def ofFloat (x : Float) : Double :=
  ⟨x.toBits⟩

end Double

/-- A number of the 32-bit format. -/
structure Single where
  /-- Its bits. -/
  bits : UInt32
deriving DecidableEq, Repr

namespace Single

/-- The value of the bits. -/
def value (x : Single) : BinaryValue :=
  BinaryFormat.single.decode x.bits.toNat

/-- The number as the machine computes with it. -/
def toFloat32 (x : Single) : Float32 :=
  Float32.ofBits x.bits

/-- A number that the machine computed. -/
def ofFloat32 (x : Float32) : Single :=
  ⟨x.toBits⟩

/-- The nearest number of the 32-bit format. -/
def ofDouble (x : Double) : Single :=
  match x.value with
  | .nan => ⟨0x7fc00000⟩
  | .infinite negative => ⟨if negative then 0xff800000 else 0x7f800000⟩
  | .finite negative significand exponent =>
    ⟨UInt32.ofNat (BinaryFormat.single.encode negative significand exponent)⟩

/-- The sum. -/
def add (x y : Single) : Single :=
  ofFloat32 (x.toFloat32 + y.toFloat32)

/-- The product. -/
def mul (x y : Single) : Single :=
  ofFloat32 (x.toFloat32 * y.toFloat32)

/-- The number with the other sign. -/
def neg (x : Single) : Single :=
  ⟨x.bits ^^^ 0x80000000⟩

/-- The number itself if it is positive, and zero otherwise, also in place of what is not a
number. -/
def relu (x : Single) : Single :=
  match x.value with
  | .nan => ⟨0⟩
  | .infinite negative => if negative then ⟨0⟩ else x
  | .finite negative _ _ => if negative then ⟨0⟩ else x

end Single

end Delegation
