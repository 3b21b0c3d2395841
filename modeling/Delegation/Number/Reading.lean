import Delegation.Number.Binary
/-!
# Reading numbers

Whole numbers in a base, and decimal numbers with an optional point and exponent.
-/

namespace Delegation

/-- The value of a decimal digit. -/
def decimalDigit? (c : Char) : Option Nat :=
  if 48 ≤ c.toNat ∧ c.toNat ≤ 57 then some (c.toNat - 48) else none

/-- Whether a character is a decimal digit. -/
def isDecimalDigit (c : Char) : Bool :=
  (decimalDigit? c).isSome

/-- The number with the given digits; the empty sequence denotes zero. -/
def natOfDigits (digits : List Char) : Nat :=
  digits.foldl (fun n c => 10 * n + (c.toNat - 48)) 0

/-- The value of a digit in bases up to thirty-six, either case. -/
def digitValue? (c : Char) : Option Nat :=
  let n := c.toNat
  if 48 ≤ n ∧ n ≤ 57 then some (n - 48)
  else if 97 ≤ n ∧ n ≤ 122 then some (n - 87)
  else if 65 ≤ n ∧ n ≤ 90 then some (n - 55)
  else none

/-- A number in a base without a sign: at least one digit and nothing else. -/
def natOfText? (base : Nat) (text : List Char) : Option Nat :=
  if text.isEmpty then none
  else text.foldlM (fun n c =>
    match digitValue? c with
    | some d => if d < base then some (base * n + d) else none
    | none => none) 0

/-- A number in a base with an optional plus sign. -/
def plusNatOfText? (base : Nat) : List Char → Option Nat
  | '+' :: rest => natOfText? base rest
  | text => natOfText? base text

/-- A number in a base with an optional sign. -/
def intOfText? (base : Nat) : List Char → Option Int
  | '-' :: rest => (natOfText? base rest).map fun n => -(n : Int)
  | '+' :: rest => (natOfText? base rest).map Int.ofNat
  | text => (natOfText? base text).map Int.ofNat

/-- A number that fits 64 bits. -/
def fitsWord (n : Nat) : Option UInt64 :=
  if n < UInt64.size then some (UInt64.ofNat n) else none

/-- A number that fits 64 bits with a sign. -/
def fitsSigned (n : Int) : Option Int64 :=
  if -(UInt64.size / 2 : Nat) ≤ n ∧ n < (UInt64.size / 2 : Nat) then some (Int64.ofInt n) else none

namespace Double

/-- The number with the opposite sign when asked for. -/
def withSign (negative : Bool) (x : Float) : Double :=
  ofFloat (if negative then -x else x)

/-- The number nearest to `digits · 10 ^ exponent`.  Beyond four hundred places the result is an
infinity or zero whatever the digits are. -/
def ofDecimal (negative : Bool) (digits : Nat) (exponent : Int) : Double :=
  let places : Int := (Nat.toDigits 10 digits).length + exponent
  let x : Float :=
    if digits = 0 then 0.0
    else if 400 < places then 1.0 / 0.0
    else if places < -400 then 0.0
    else if 0 ≤ exponent then Float.ofScientific digits false exponent.toNat
    else Float.ofScientific digits true (-exponent).toNat
  withSign negative x

/-- The exponent part of a number: nothing, or a letter, an optional sign and digits. -/
def exponent? : List Char → Option Int
  | [] => some 0
  | c :: rest => if c = 'e' ∨ c = 'E' then intOfText? 10 rest else none

/-- A number without a sign: digits with an optional point, at least one digit in all, and an
optional exponent. -/
def unsigned? (negative : Bool) (text : List Char) : Option Double :=
  let whole := text.takeWhile isDecimalDigit
  let afterWhole := text.dropWhile isDecimalDigit
  let (fraction, tail) :=
    match afterWhole with
    | '.' :: rest => (rest.takeWhile isDecimalDigit, rest.dropWhile isDecimalDigit)
    | rest => ([], rest)
  if whole.isEmpty && fraction.isEmpty then none
  else
    (exponent? tail).map fun e =>
      ofDecimal negative (natOfDigits (whole ++ fraction)) (e - fraction.length)

/-- The words for the numbers that are not finite, in any case. -/
def special? (negative : Bool) (text : List Char) : Option Double :=
  let word := String.ofList (text.map Char.toLower)
  if word = "inf" ∨ word = "infinity" then some (withSign negative (1.0 / 0.0))
  else if word = "nan" then some (withSign negative (0.0 / 0.0))
  else none

/-- A decimal number with an optional sign, or a word for a number that is not finite. -/
def ofText? (text : List Char) : Option Double :=
  let (negative, body) :=
    match text with
    | '-' :: rest => (true, rest)
    | '+' :: rest => (false, rest)
    | rest => (false, rest)
  (special? negative body).orElse fun _ => unsigned? negative body

/-- The nearest whole number, halves away from zero, clamped to 64 bits; what is not a number
counts as zero. -/
def roundToWord (x : Double) : UInt64 :=
  match x.value with
  | .nan => 0
  | .infinite negative => if negative then 0 else UInt64.ofNat (UInt64.size - 1)
  | .finite negative significand exponent =>
    let whole :=
      if 0 ≤ exponent then significand * Nat.pow 2 exponent.toNat
      else (2 * significand + Nat.pow 2 (-exponent).toNat) / Nat.pow 2 ((-exponent).toNat + 1)
    if negative then 0 else UInt64.ofNat (min whole (UInt64.size - 1))

/-- Whether the number is unequal to zero; what is not a number is. -/
def isNonzero (x : Double) : Bool :=
  x.toFloat != 0.0

end Double

end Delegation
