import Delegation.Layers.Raw
import Delegation.Text.Hex
/-!
# Scalars of RON

Texts, characters, numbers and names.  A reader takes the characters that are left and gives back
what it read with the characters that are left after it.
-/

namespace Delegation.Ron

/-! ## Names -/

/-- Whether a name may start with a character. -/
def startsName (c : Char) : Bool :=
  c.isAlpha || c == '_'

/-- Whether a character may stand in a name. -/
def isNameChar (c : Char) : Bool :=
  c.isAlphanum || c == '_'

/-- Whether a character may stand in a name that is marked as raw. -/
def isRawNameChar (c : Char) : Bool :=
  isNameChar c || c == '.' || c == '+' || c == '-'

/-- A name.  A raw name has its own mark; without it, none of the characters of raw names may follow
the name.  What starts a raw text is no name. -/
def name? : List Char → Option (String × List Char)
  | 'r' :: '\x22' :: _ => none
  | 'r' :: '#' :: rest =>
    let name := rest.takeWhile isRawNameChar
    if name.isEmpty then none else some (String.ofList name, rest.drop name.length)
  | ['r'] => none
  | c :: rest =>
    let name := (c :: rest).takeWhile isNameChar
    let left := (c :: rest).drop name.length
    if startsName c && !(left.head?.any isRawNameChar) then some (String.ofList name, left)
    else none
  | [] => none

/-- What is left after a word that does not go on. -/
def word? (word : String) (cs : List Char) : Option (List Char) :=
  let left := cs.drop word.length
  if word.toList.isPrefixOf cs && !(left.head?.any isNameChar) then some left else none

/-! ## Texts -/

/-- The character of a code in braces, after the opening one, and what is left. -/
def braced? (cs : List Char) : Option (Char × List Char) :=
  let digits := cs.takeWhile (· != '\x7d')
  if digits.isEmpty ∨ 6 < digits.length then none
  else
    match cs.drop digits.length with
    | '\x7d' :: rest => (Hex.toChar? digits).map (·, rest)
    | _ => none

/-- The character that an escape stands for, after its backslash, and what is left. -/
def escape? : List Char → Option (Char × List Char)
  | '\x27' :: rest => some ('\x27', rest)
  | '\x22' :: rest => some ('\x22', rest)
  | '\x5c' :: rest => some ('\x5c', rest)
  | 'n' :: rest => some ('\n', rest)
  | 'r' :: rest => some ('\r', rest)
  | 't' :: rest => some ('\t', rest)
  | '0' :: rest => some ('\x00', rest)
  | 'x' :: a :: b :: rest => (Hex.toChar? [a, b]).map (·, rest)
  | 'u' :: '\x7b' :: rest => braced? rest
  | _ => none

/-- A text after its opening quote.  Each round takes a character. -/
def textFor : Nat → List Char → List Char → Option (String × List Char)
  | 0, _, _ => none
  | _ + 1, _, [] => none
  | fuel + 1, acc, c :: rest =>
    if c = '\x22' then some (String.ofList acc.reverse, rest)
    else if c = '\x5c' then
      match escape? rest with
      | some (e, rest) => textFor fuel (e :: acc) rest
      | none => none
    else textFor fuel (c :: acc) rest

/-- The characters before the end of a raw text, and what is left after it. -/
def rawText? (ending : List Char) : List Char → Option (List Char × List Char)
  | [] => none
  | c :: rest =>
    if ending.isPrefixOf (c :: rest) then some ([], (c :: rest).drop ending.length)
    else (rawText? ending rest).map fun r => (c :: r.1, r.2)

/-- A text.  A raw text knows no escapes; it ends with as many number signs after its quote as stand
before its quote. -/
def text? : List Char → Option (String × List Char)
  | '\x22' :: rest => textFor (rest.length + 1) [] rest
  | 'r' :: rest =>
    let marks := rest.takeWhile (· == '#')
    match rest.drop marks.length with
    | '\x22' :: body => (rawText? ('\x22' :: marks) body).map fun r => (String.ofList r.1, r.2)
    | _ => none
  | _ => none

/-- A single character after its opening quote. -/
def char? (cs : List Char) : Option (Char × List Char) :=
  let read :=
    match cs with
    | '\x5c' :: rest => escape? rest
    | '\x27' :: _ => none
    | c :: rest => some (c, rest)
    | [] => none
  match read with
  | some (c, '\x27' :: rest) => some (c, rest)
  | _ => none

/-! ## Numbers -/

/-- The characters of whole numbers. -/
def isIntChar (c : Char) : Bool :=
  (Hex.digitValue? c).isSome || c == '_'

/-- The characters of floating-point numbers. -/
def isFloatChar (c : Char) : Bool :=
  isDecimalDigit c || ['e', 'E', '.', '+', '-', '_'].contains c

/-- The words for numbers that are not finite. -/
def specialNumbers : List (String × Double) :=
  let infinity : Double := .withSign false (1.0 / 0.0)
  let nan : Double := .withSign false (0.0 / 0.0)
  [("inf", infinity), ("+inf", infinity), ("-inf", .withSign true (1.0 / 0.0)), ("NaN", nan),
    ("+NaN", nan), ("-NaN", nan)]

/-- A word for a number that is not finite. -/
def special? (cs : List Char) : Option (Double × List Char) :=
  specialNumbers.findSome? fun w => (word? w.1 cs).map (w.2, ·)

/-- A floating-point number.  Low lines may not stand in it. -/
def float? (cs : List Char) : Option (Double × List Char) :=
  (special? cs).orElse fun _ =>
    let digits := cs.takeWhile isFloatChar
    if digits.contains '_' then none
    else (Double.ofText? digits).map (·, cs.drop digits.length)

/-- A whole number without a sign, in the base that its start shows.  Low lines may stand between
its digits and after them. -/
def natural? (cs : List Char) : Option (Nat × List Char) :=
  let (base, body) :=
    match cs with
    | '0' :: 'x' :: rest => (16, rest)
    | '0' :: 'b' :: rest => (2, rest)
    | '0' :: 'o' :: rest => (8, rest)
    | _ => (10, cs)
  let digits := body.takeWhile isIntChar
  if digits.head? = some '_' then none
  else (natOfText? base (digits.filter (· != '_'))).map (·, body.drop digits.length)

/-- A whole number.  Without a sign it is a number of 64 bits that is read again with a sign. -/
def int? : List Char → Option (Int64 × List Char)
  | '+' :: rest => (natural? rest).bind fun r => (fitsSigned r.1).map (·, r.2)
  | '-' :: rest => (natural? rest).bind fun r => (fitsSigned (-r.1)).map (·, r.2)
  | cs => (natural? cs).bind fun r => (fitsWord r.1).map fun n => (n.toInt64, r.2)

/-- Whether the number at the start of some characters goes on after what a whole number may
hold. -/
def looksFloat (cs : List Char) : Bool :=
  let body := if cs.head? = some '+' ∨ cs.head? = some '-' then cs.drop 1 else cs
  (body.takeWhile isIntChar).length < (body.takeWhile isFloatChar).length

/-- A number.  A whole number that does not fit is a floating-point number. -/
def number? (cs : List Char) : Option (Raw × List Char) :=
  let asFloat := (float? cs).map fun r => (Raw.float r.1, r.2)
  if looksFloat cs then asFloat
  else
    match int? cs with
    | some (n, rest) => some (.int n, rest)
    | none => asFloat

end Delegation.Ron
