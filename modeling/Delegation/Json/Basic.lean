import Delegation.Number.Reading
import Delegation.Number.Layout
/-!
# JSON documents

A document keeps what its text says: numbers are kept as the digits that were written, objects as
the fields in the order in which they were written, repeated names included.  A string whose
escapes name half of a surrogate pair has no text; it does no harm where the string is ignored.
-/

namespace Delegation

namespace Json

/-- A number as it is written. -/
structure Numeral where
  /-- Whether a minus sign stands in front. -/
  negative : Bool
  /-- The digits before the point, without superfluous zeros. -/
  whole : List Char
  /-- The digits after the point, empty when there is no point. -/
  fraction : List Char
  /-- The exponent, if there is one. -/
  exponent : Option Int
deriving DecidableEq, Repr

/-- The text of a string, if it has one. -/
abbrev Content := Option String

end Json

/-- A JSON document. -/
inductive Json where
  /-- The null literal. -/
  | null
  /-- A truth value. -/
  | bool (b : Bool)
  /-- A number. -/
  | number (n : Json.Numeral)
  /-- A string. -/
  | string (s : Json.Content)
  /-- An array. -/
  | array (items : List Json)
  /-- An object. -/
  | object (fields : List (Json.Content × Json))
deriving Repr

namespace Json

/-! ## Numbers -/

/-- What a number can be used as: integers of 64 bits without or with a sign, and floating-point
numbers for everything else. -/
inductive Number where
  /-- A number written without sign, point and exponent. -/
  | natural (n : UInt64)
  /-- A negative number written without point and exponent. -/
  | negative (n : Int64)
  /-- Any other number. -/
  | float (x : Double)
deriving DecidableEq, Repr

namespace Numeral

/-- The digits read so far, and the power of ten they have to be scaled by. -/
structure Reading where
  /-- The digits that fit 64 bits, as a number. -/
  digits : Nat
  /-- The power of ten. -/
  power : Int
  /-- Whether a digit was dropped because it did not fit. -/
  full : Bool

/-- Whether another digit still fits 64 bits. -/
def fits (digits digit : Nat) : Bool :=
  10 * digits + digit < UInt64.size

/-- The digits before the point: from the first one that does not fit on, each digit only counts
as a power of ten. -/
def readWhole (r : Reading) (c : Char) : Reading :=
  let d := c.toNat - 48
  if r.full then ⟨r.digits, r.power + 1, true⟩
  else if fits r.digits d then ⟨10 * r.digits + d, r.power, false⟩
  else ⟨r.digits, r.power + 1, true⟩

/-- The digits after the point: from the first one that does not fit on, digits are ignored. -/
def readFraction (r : Reading) (c : Char) : Reading :=
  let d := c.toNat - 48
  if r.full then r
  else if fits r.digits d then ⟨10 * r.digits + d, r.power - 1, false⟩
  else ⟨r.digits, r.power, true⟩

/-- The digits of a number and their power of ten, the exponent included. -/
def reading (n : Numeral) : Reading :=
  let w := n.whole.foldl readWhole ⟨0, 0, false⟩
  let f := n.fraction.foldl readFraction ⟨w.digits, w.power, false⟩
  ⟨f.digits, f.power + n.exponent.getD 0, w.full⟩

/-- A power of ten from the zeroth to the three hundred and eighth. -/
def powerOfTen (e : Nat) : Float :=
  Float.ofScientific 1 false e

/-- Scale by a power of ten with one rounding for each three hundred and eight places; nothing if
the result is too large.  A number of 64 bits is zero after two divisions by the largest power, so
a fuel of four is enough. -/
def scale : Nat → Float → Int → Option Float
  | 0, x, _ => some x
  | fuel + 1, x, e =>
    if e.natAbs ≤ 308 then
      if 0 ≤ e then
        let y := x * powerOfTen e.toNat
        if y.isInf then none else some y
      else some (x / powerOfTen e.natAbs)
    else if x == 0.0 then some x
    else if 0 ≤ e then none
    else scale fuel (x / powerOfTen 308) (e + 308)

/-- The floating-point number that a number denotes, if it is not too large. -/
def toDouble? (n : Numeral) : Option Double :=
  let r := n.reading
  (scale 4 (UInt64.ofNat r.digits).toFloat r.power).map (Double.withSign n.negative)

/-- Whether a number is written without point and exponent. -/
def isWhole (n : Numeral) : Bool :=
  n.fraction.isEmpty && n.exponent.isNone

/-- What a number can be used as; nothing if it is too large for any use.  Minus zero is a
floating-point number. -/
def number? (n : Numeral) : Option Number :=
  let magnitude := natOfDigits n.whole
  if n.isWhole && !n.negative && decide (magnitude < UInt64.size) then
    some (.natural (UInt64.ofNat magnitude))
  else if n.isWhole && n.negative && magnitude != 0 && decide (magnitude ≤ UInt64.size / 2) then
    some (.negative (Int64.ofInt (-magnitude)))
  else n.toDouble?.map .float

/-- The numeral of a number without a sign. -/
def ofNat (n : Nat) : Numeral :=
  ⟨false, Nat.toDigits 10 n, [], none⟩

/-- The numeral of an integer. -/
def ofInt (n : Int) : Numeral :=
  ⟨n < 0, Nat.toDigits 10 n.natAbs, [], none⟩

/-- The numeral of a positive decimal in a layout: positional with at least one digit after the
point, or with an exponent. -/
def ofDecimal (l : NumberLayout) (negative : Bool) (d : Decimal) : Numeral :=
  let digits := Nat.toDigits 10 d.digits
  let whole : Int := digits.length + d.exponent
  if 0 ≤ d.exponent ∧ whole.toNat ≤ l.maxWhole then
    ⟨negative, digits ++ List.replicate d.exponent.toNat '0', ['0'], none⟩
  else if 0 < whole ∧ d.exponent < 0 ∧ whole.toNat ≤ l.maxWhole then
    ⟨negative, digits.take whole.toNat, digits.drop whole.toNat, none⟩
  else if whole ≤ 0 ∧ (-whole).toNat ≤ l.maxZeros then
    ⟨negative, ['0'], List.replicate (-whole).toNat '0' ++ digits, none⟩
  else
    ⟨negative, digits.take 1, digits.drop 1, some (whole - 1)⟩

/-- The numeral of a floating-point value, if it is finite. -/
def ofValue? (l : NumberLayout) (f : BinaryFormat) : BinaryValue → Option Numeral
  | .finite negative significand exponent =>
    if significand = 0 then some ⟨negative, ['0'], ['0'], none⟩
    else some (ofDecimal l negative (Shortest.ofBinary f significand exponent))
  | _ => none

/-- The text of an exponent: its sign and at least two digits. -/
def exponentText (e : Int) : List Char :=
  let digits := Nat.toDigits 10 e.natAbs
  (if e < 0 then '-' else '+') :: List.replicate (2 - digits.length) '0' ++ digits

/-- The text of a number. -/
def render (n : Numeral) : List Char :=
  (if n.negative then ['-'] else []) ++ n.whole ++
    (if n.fraction.isEmpty then [] else '.' :: n.fraction) ++
    match n.exponent with
    | some e => 'e' :: exponentText e
    | none => []

end Numeral

/-- A 64-bit number, or null where it is not finite. -/
def ofDouble (x : Double) : Json :=
  match Numeral.ofValue? .jsonDouble .double x.value with
  | some n => number n
  | none => null

/-- A 32-bit number, or null where it is not finite. -/
def ofSingle (x : Single) : Json :=
  match Numeral.ofValue? .jsonSingle .single x.value with
  | some n => number n
  | none => null

/-- A string with a text. -/
def ofString (s : String) : Json :=
  string (some s)

/-- An object with the given fields. -/
def ofFields (fields : List (String × Json)) : Json :=
  object (fields.map fun f => (some f.1, f.2))

/-! ## Uses of a document -/

/-- The number of arrays and objects that may be nested, plus one. -/
def maxDepth : Nat := 128

/-- Enter an array or an object when the depth that is left allows it. -/
def enter : Nat → Option Nat
  | depth + 2 => some (depth + 1)
  | _ => none

/-- A truth value. -/
def asBool? : Json → Option Bool
  | bool b => some b
  | _ => none

/-- A string that has a text. -/
def asString? : Json → Option String
  | string s => s
  | _ => none

/-- An integer of 64 bits without a sign. -/
def asWord? : Json → Option UInt64
  | number n =>
    match n.number? with
    | some (.natural k) => some k
    | _ => none
  | _ => none

/-- An integer of 64 bits with a sign. -/
def asSigned? : Json → Option Int64
  | number n =>
    match n.number? with
    | some (.natural k) => fitsSigned k.toNat
    | some (.negative k) => some k
    | _ => none
  | _ => none

/-- A floating-point number; integers are numbers too. -/
def asDouble? : Json → Option Double
  | number n =>
    match n.number? with
    | some (.natural k) => some (.ofFloat k.toFloat)
    | some (.negative k) => some (.ofFloat k.toFloat)
    | some (.float x) => some x
    | none => none
  | _ => none

/-- A number of 32 bits.  A number written without point and exponent is rounded once; any other
number is rounded to 64 bits first. -/
def asSingle? : Json → Option Single
  | number n =>
    match n.number? with
    | some (.natural k) => some (.ofFloat32 k.toFloat32)
    | some (.negative k) => some (.ofFloat32 k.toFloat32)
    | some (.float x) => some (.ofDouble x)
    | none => none
  | _ => none

/-- The documents under a name among fields. -/
def lookupAll (fields : List (Content × Json)) (name : String) : List Json :=
  (fields.filter fun f => f.1 == some name).map Prod.snd

end Json

end Delegation
