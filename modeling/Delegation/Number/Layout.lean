import Delegation.Number.Shortest
/-!
# Writing decimals

The text of a floating-point number shows the digits of its shortest decimal.  A layout says how far
the point may lie to the right of the first digit, and how many zeros may follow the point, before
an exponent is used.  The plain text of a number has no exponent, however long it gets.
-/

namespace Delegation

/-- The bounds within which a number is written without an exponent. -/
structure NumberLayout where
  /-- The greatest number of digits before the point. -/
  maxWhole : Nat
  /-- The greatest number of zeros after the point. -/
  maxZeros : Nat
deriving DecidableEq, Repr

namespace NumberLayout

/-- JSON text of 64-bit numbers. -/
def jsonDouble : NumberLayout := ⟨16, 4⟩

/-- JSON text of 32-bit numbers. -/
def jsonSingle : NumberLayout := ⟨13, 5⟩

end NumberLayout

/-- The text of a positive decimal without an exponent; a whole number has no point. -/
def Decimal.plain (d : Decimal) : List Char :=
  let digits := Nat.toDigits 10 d.digits
  let whole : Int := digits.length + d.exponent
  if 0 ≤ d.exponent then
    digits ++ List.replicate d.exponent.toNat '0'
  else if 0 < whole then
    digits.take whole.toNat ++ '.' :: digits.drop whole.toNat
  else
    '0' :: '.' :: (List.replicate (-whole).toNat '0' ++ digits)

/-- The plain text of a 64-bit number; zero keeps its sign. -/
def Double.display (x : Double) : String :=
  match x.value with
  | .nan => "NaN"
  | .infinite negative => if negative then "-inf" else "inf"
  | .finite negative significand exponent =>
    let body :=
      if significand = 0 then ['0']
      else (Shortest.ofBinary .double significand exponent).plain
    String.ofList (if negative then '-' :: body else body)

end Delegation
