import Delegation.Number.Binary
/-!
# The shortest decimal that reads back

Among the decimals that round to a given finite number, the ones with the fewest digits, and of
these the nearest to the number.  A number `m · 2 ^ q` is the nearest one for all reals between the
midpoints to its neighbours, the midpoints included when `m` is even.  For one digit, two digits
and so on, the two decimals with that many digits next to the number are tried in exact
arithmetic; the first count of digits with a hit wins.
-/

namespace Delegation

/-- A positive decimal `digits · 10 ^ exponent`. -/
structure Decimal where
  /-- The digits, as a number. -/
  digits : Nat
  /-- The exponent of the last digit. -/
  exponent : Int
deriving DecidableEq, Repr

namespace Shortest

/-- Strip the zeros at the end, at most `fuel` of them. -/
def strip : Nat → Decimal → Decimal
  | 0, d => d
  | fuel + 1, d =>
    if d.digits ≠ 0 ∧ d.digits % 10 = 0 then strip fuel ⟨d.digits / 10, d.exponent + 1⟩ else d

/-- A positive fraction. -/
structure Ratio where
  /-- The numerator. -/
  num : Nat
  /-- The denominator. -/
  den : Nat

/-- The fraction `n · 2 ^ e`. -/
def Ratio.scaled (n : Nat) (e : Int) : Ratio :=
  if 0 ≤ e then ⟨n * Nat.pow 2 e.toNat, 1⟩ else ⟨n, Nat.pow 2 (-e).toNat⟩

/-- Whether `c · 10 ^ k` is less than the fraction. -/
def Ratio.above (r : Ratio) (c : Nat) (k : Int) : Bool :=
  if 0 ≤ k then c * Nat.pow 10 k.toNat * r.den < r.num
  else c * r.den < r.num * Nat.pow 10 (-k).toNat

/-- Whether `c · 10 ^ k` equals the fraction. -/
def Ratio.meets (r : Ratio) (c : Nat) (k : Int) : Bool :=
  if 0 ≤ k then c * Nat.pow 10 k.toNat * r.den == r.num
  else c * r.den == r.num * Nat.pow 10 (-k).toNat

/-- The whole part of the fraction divided by `10 ^ k`. -/
def Ratio.floor (r : Ratio) (k : Int) : Nat :=
  if 0 ≤ k then r.num / (r.den * Nat.pow 10 k.toNat) else r.num * Nat.pow 10 (-k).toNat / r.den

/-- The number of digits before the point, zero or negative for fractions below one tenth. -/
def Ratio.magnitude (r : Ratio) : Int :=
  if r.den ≤ r.num then ((Nat.toDigits 10 (r.num / r.den)).length : Int)
  else 1 - (search 400 1 : Nat)
where
  /-- The least `t` for which `10 ^ t` times the fraction is at least one. -/
  search : Nat → Nat → Nat
    | 0, t => t
    | fuel + 1, t => if r.den ≤ r.num * Nat.pow 10 t then t else search fuel (t + 1)

/-- The decimals `c · 10 ^ k` between two bounds. -/
def within (low high : Ratio) (closed : Bool) (c : Nat) (k : Int) : Bool :=
  (!(low.above c k) && !(low.meets c k) || closed && low.meets c k) &&
    (high.above c k || closed && high.meets c k)

/-- The decimal with the fewest digits for `significand · 2 ^ exponent`.  The midpoint below is
nearer when the significand is the least of its binade. -/
def ofBinary (f : BinaryFormat) (significand : Nat) (exponent : Int) : Decimal :=
  let gap := if significand = Nat.pow 2 f.fractionBits ∧ exponent ≠ f.leastExponent then 1 else 2
  let value := Ratio.scaled (4 * significand) (exponent - 2)
  let low := Ratio.scaled (4 * significand - gap) (exponent - 2)
  let high := Ratio.scaled (4 * significand + 2) (exponent - 2)
  let closed := significand % 2 == 0
  let magnitude := value.magnitude
  let attempt (count : Nat) : Option Decimal :=
    let k := magnitude - count
    let c := value.floor k
    let below := within low high closed c k && c != 0
    let above := within low high closed (c + 1) k
    let half := Ratio.scaled (2 * value.num) 0
    let middle : Ratio := ⟨half.num, value.den⟩
    if below && above then
      if middle.meets (2 * c + 1) k then
        some ⟨if c % 2 = 0 then c else c + 1, k⟩
      else if middle.above (2 * c + 1) k then some ⟨c + 1, k⟩
      else some ⟨c, k⟩
    else if below then some ⟨c, k⟩
    else if above then some ⟨c + 1, k⟩
    else none
  match (List.range 17).findSome? fun i => attempt (i + 1) with
  | some d => strip 20 d
  | none => strip 20 ⟨value.floor (magnitude - 17), magnitude - 17⟩

end Shortest

end Delegation
