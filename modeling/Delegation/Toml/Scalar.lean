import Delegation.Toml.Tree
/-!
# Words of TOML

A word is a truth value, an integer, a floating-point number, or a date or time.  Low lines may
stand between two digits.
-/

namespace Delegation.Toml.Scalar

/-- Whether a character may stand in a word. -/
def isWordChar (c : Char) : Bool :=
  c.isAlphanum || c == '_' || c == '+' || c == '-' || c == '.' || c == ':'

/-- Digits without the low lines between them, each of which stands between two digits. -/
def digits? (isDigit : Char → Bool) : List Char → Option (List Char)
  | [] => none
  | [c] => if isDigit c then some [c] else none
  | c :: '_' :: rest => if isDigit c then (digits? isDigit rest).map (c :: ·) else none
  | c :: rest => if isDigit c then (digits? isDigit rest).map (c :: ·) else none

/-- The sign in front of a word, and what follows it. -/
def signed (cs : List Char) : Bool × List Char :=
  match cs with
  | '-' :: rest => (true, rest)
  | '+' :: rest => (false, rest)
  | rest => (false, rest)

/-- Whether digits have no superfluous zeros. -/
def isShort (digits : List Char) : Bool :=
  digits.head? != some '0' || digits.length == 1

/-- An integer in a base other than ten, after its mark. -/
def based? (base : Nat) (cs : List Char) : Option Int :=
  let isDigit (c : Char) : Bool := ((digitValue? c).map fun d => decide (d < base)).getD false
  ((digits? isDigit cs).bind (natOfText? base)).map Int.ofNat

/-- An integer. -/
def int? (cs : List Char) : Option Int :=
  match cs with
  | '0' :: 'x' :: rest => based? 16 rest
  | '0' :: 'o' :: rest => based? 8 rest
  | '0' :: 'b' :: rest => based? 2 rest
  | _ => do
    let (negative, body) := signed cs
    let digits ← digits? isDecimalDigit body
    if isShort digits then
      let n : Int := natOfDigits digits
      some (if negative then -n else n)
    else none

/-- The digits of an exponent after its letter, together with the letter and the sign. -/
def exponent? (cs : List Char) : Option (List Char) :=
  match cs with
  | [] => some []
  | _ :: rest =>
    let (negative, body) := signed rest
    (digits? isDecimalDigit body).map fun digits =>
      'e' :: (if negative then '-' else '+') :: digits

/-- The digits after a point, together with the point. -/
def fraction? (cs : List Char) : Option (List Char) :=
  match cs with
  | [] => some []
  | _ :: rest => (digits? isDecimalDigit rest).map ('.' :: ·)

/-- A floating-point number: digits, and after them a point with digits, an exponent, or both. -/
def float? (cs : List Char) : Option Double :=
  let (negative, body) := signed cs
  if body = "inf".toList ∨ body = "nan".toList then Double.special? negative body
  else do
    let isLetter (c : Char) : Bool := c == 'e' || c == 'E'
    let mantissa := body.takeWhile (!isLetter ·)
    let whole ← digits? isDecimalDigit (mantissa.takeWhile (· != '.'))
    let fraction ← fraction? (mantissa.dropWhile (· != '.'))
    let exponent ← exponent? (body.dropWhile (!isLetter ·))
    if !isShort whole || (fraction.isEmpty && exponent.isEmpty) then none
    else
      let x ← Double.unsigned? negative (whole ++ fraction ++ exponent)
      if x.value = .infinite false then none else some x

/-- Whether a word has the form of a date. -/
def looksDate (cs : List Char) : Bool :=
  (cs.map fun c => if isDecimalDigit c then '0' else c) == "0000-00-00".toList

/-- The value of a word. -/
def value? (cs : List Char) : Option Tree :=
  if cs = "true".toList then some (.value (.bool true))
  else if cs = "false".toList then some (.value (.bool false))
  else
    match int? cs with
    | some n => (fitsSigned n).map fun n => .value (.int n)
    | none =>
      match float? cs with
      | some x => some (.value (.float x))
      | none => (Moment.read? .day cs).map .moment

/-- The word at the start of some characters: a date may be followed by a space and a time. -/
def word (cs : List Char) : List Char × List Char :=
  let first := cs.takeWhile isWordChar
  let rest := cs.dropWhile isWordChar
  match rest with
  | ' ' :: a :: b :: ':' :: _ =>
    if looksDate first && isDecimalDigit a && isDecimalDigit b then
      let more := (rest.drop 1).takeWhile isWordChar
      (first ++ ' ' :: more, (rest.drop 1).dropWhile isWordChar)
    else (first, rest)
  | _ => (first, rest)

/-- The word at the start of some characters as a value, and what is left. -/
def read? (cs : List Char) : Option (Tree × List Char) :=
  let (w, rest) := word cs
  (value? w).map (·, rest)

end Delegation.Toml.Scalar
