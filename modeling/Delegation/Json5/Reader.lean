import Delegation.Json.Reader
import Delegation.Json5.Name
import Delegation.Layers.Table
import Delegation.Number.Reading
/-!
# Reading JSON5

JSON with comments, names without quotes, texts in single quotes, commas after the last item, and
more ways to write numbers.  A reader takes the characters that are left and gives back what it read
with the characters that are left after it.
-/

namespace Delegation.Json5

/-! ## White space and comments -/

/-- The characters that end a line. -/
def isBreak (c : Char) : Bool :=
  c == '\n' || c == '\r' || c == '\u2028' || c == '\u2029'

/-- The ranges of white space, in increasing order; a byte order mark is white space too. -/
def spaceRanges : CodeRanges := #[
  (0x9, 0xd), (0x20, 0x20), (0xa0, 0xa0), (0x1680, 0x1680), (0x2000, 0x200a), (0x2028, 0x2029),
  (0x202f, 0x202f), (0x205f, 0x205f), (0x3000, 0x3000), (0xfeff, 0xfeff)]

/-- What is left after the end of a comment between a slash with an asterisk and the reverse. -/
def afterComment? : List Char → Option (List Char)
  | '*' :: '/' :: rest => some rest
  | _ :: rest => afterComment? rest
  | [] => none

/-- What is left after white space and comments.  Each round takes a character. -/
def skipFor : Nat → List Char → List Char
  | 0, cs => cs
  | fuel + 1, cs =>
    match cs with
    | '/' :: '*' :: rest =>
      match afterComment? rest with
      | some rest => skipFor fuel rest
      | none => cs
    | '/' :: '/' :: rest => skipFor fuel (rest.dropWhile (!isBreak ·))
    | c :: rest => if spaceRanges.has c then skipFor fuel rest else cs
    | [] => []

/-- What is left after white space and comments. -/
def skip (cs : List Char) : List Char :=
  skipFor cs.length cs

/-! ## Texts and names -/

/-- The character that an escape of one letter stands for: most characters stand for themselves. -/
def shortEscape? (c : Char) : Option Char :=
  if c = 'b' then some '\x08'
  else if c = 'f' then some '\x0c'
  else if c = 'n' then some '\n'
  else if c = 'r' then some '\r'
  else if c = 't' then some '\t'
  else if c = 'v' then some '\x0b'
  else if c = '0' then some '\x00'
  else if isDecimalDigit c || c == 'x' || c == 'u' then none
  else some c

/-- The pieces of a text after its opening quote, up to and with its closing quote.  A line may only
end after a backslash, and then its end does not count. -/
def readPieces (quote : Char) : List Char → Option (List Json.Piece × List Char)
  | [] => none
  | '\x5c' :: 'u' :: a :: b :: c :: d :: rest =>
    match Json.hex4? a b c d with
    | some code => (readPieces quote rest).map fun r => (.ofCode code :: r.1, r.2)
    | none => none
  | '\x5c' :: 'x' :: a :: b :: rest =>
    match Hex.toNat? [a, b] with
    | some code => (readPieces quote rest).map fun r => (.ofCode code :: r.1, r.2)
    | none => none
  | '\x5c' :: '\r' :: '\n' :: rest => readPieces quote rest
  | '\x5c' :: c :: rest =>
    if isBreak c then readPieces quote rest
    else
      match shortEscape? c with
      | some e => (readPieces quote rest).map fun r => (.char e :: r.1, r.2)
      | none => none
  | c :: rest =>
    if c = quote then some ([], rest)
    else if isBreak c || c == '\x5c' then none
    else (readPieces quote rest).map fun r => (.char c :: r.1, r.2)

/-- The pieces of a name without quotes, and what is left.  Escapes may stand for any characters. -/
def namePieces (first : Bool) : List Char → Option (List Json.Piece × List Char)
  | '\x5c' :: 'u' :: a :: b :: c :: d :: rest =>
    match Json.hex4? a b c d with
    | some code => (namePieces false rest).map fun r => (.ofCode code :: r.1, r.2)
    | none => none
  | c :: rest =>
    if (if first then startsName c else isNamePart c) then
      (namePieces false rest).map fun r => (.char c :: r.1, r.2)
    else if first then none
    else some ([], c :: rest)
  | [] => if first then none else some ([], [])

/-- The text of some pieces; half of a surrogate pair has none. -/
def joined? (r : List Json.Piece × List Char) : Option (String × List Char) :=
  (Json.joinPieces r.1).map fun cs => (String.ofList cs, r.2)

/-- A text in quotes. -/
def readText? : List Char → Option (String × List Char)
  | '\x22' :: rest => (readPieces '\x22' rest).bind joined?
  | '\x27' :: rest => (readPieces '\x27' rest).bind joined?
  | _ => none

/-- The name of a field. -/
def readName? (cs : List Char) : Option (String × List Char) :=
  match cs with
  | '\x22' :: _ | '\x27' :: _ => readText? cs
  | _ => (namePieces true cs).bind joined?

/-! ## Numbers -/

/-- A hexadecimal number after its mark; it has to fit 32 bits. -/
def readHex? (cs : List Char) : Option (Raw × List Char) :=
  let digits := cs.takeWhile fun c => (Hex.digitValue? c).isSome
  match natOfText? 16 digits with
  | some n => if n < UInt32.size then some (.int (Int64.ofNat n), cs.drop digits.length) else none
  | none => none

/-- The exponent of a number with its letter, if there is one. -/
def exponentPart (cs : List Char) : List Char :=
  match cs with
  | e :: sign :: rest =>
    if e = 'e' ∨ e = 'E' then
      if sign = '+' ∨ sign = '-' then e :: sign :: rest.takeWhile isDecimalDigit
      else e :: (sign :: rest).takeWhile isDecimalDigit
    else []
  | _ => []

/-- A decimal number after its sign.  Without point and exponent it has to fit 64 bits; otherwise
it has to be finite. -/
def readDecimal? (sign : List Char) (cs : List Char) : Option (Raw × List Char) :=
  let whole := cs.takeWhile isDecimalDigit
  let rest := cs.drop whole.length
  let point :=
    match rest with
    | '.' :: rest => '.' :: rest.takeWhile isDecimalDigit
    | _ => []
  let exponent := exponentPart (rest.drop point.length)
  let left := rest.drop (point.length + exponent.length)
  if whole.head? = some '0' ∧ whole.length ≠ 1 then none
  else if point.isEmpty && exponent.isEmpty then
    ((intOfText? 10 (sign ++ whole)).bind fitsSigned).map fun n => (.int n, left)
  else
    match Double.ofText? (sign ++ whole ++ point ++ exponent) with
    | some x => if x.isFinite then some (.float x, left) else none
    | none => none

/-- A number.  The words for numbers that are not finite, and hexadecimal numbers, have no plus
sign, and hexadecimal numbers have no minus sign. -/
def readNumber? (cs : List Char) : Option (Raw × List Char) :=
  let (sign, body) :=
    match cs with
    | '+' :: rest => (['+'], rest)
    | '-' :: rest => (['-'], rest)
    | rest => ([], rest)
  let special (x : Float) (length : Nat) : Option (Raw × List Char) :=
    if sign = ['+'] then none
    else some (.float (Double.withSign (sign == ['-']) x), body.drop length)
  if "Infinity".toList.isPrefixOf body then special (1.0 / 0.0) 8
  else if "NaN".toList.isPrefixOf body then special (0.0 / 0.0) 3
  else
    match body with
    | '0' :: x :: rest =>
      if x = 'x' ∨ x = 'X' then if sign.isEmpty then readHex? rest else none
      else readDecimal? sign body
    | _ => readDecimal? sign body

/-! ## Documents -/

mutual

/-- A value, possibly after white space. -/
def readValue : Nat → List Char → Option (Raw × List Char)
  | 0, _ => none
  | fuel + 1, cs =>
    match skip cs with
    | [] => none
    | '[' :: rest =>
      match skip rest with
      | ']' :: rest => some (.list [], rest)
      | _ => (readItems fuel rest).map fun r => (.list r.1, r.2)
    | '\x7b' :: rest =>
      match skip rest with
      | '\x7d' :: rest => some (.table [], rest)
      | _ => (readFields fuel rest).map fun r => (.table (Fields.ofList r.1), r.2)
    | 'n' :: rest => (Json.expect ['u', 'l', 'l'] rest).map fun r => (.absent, r)
    | 't' :: rest => (Json.expect ['r', 'u', 'e'] rest).map fun r => (.bool true, r)
    | 'f' :: rest => (Json.expect ['a', 'l', 's', 'e'] rest).map fun r => (.bool false, r)
    | c :: rest =>
      if c = '\x22' ∨ c = '\x27' then
        (readText? (c :: rest)).map fun r => (.text r.1, r.2)
      else readNumber? (c :: rest)

/-- The items of a list up to and with its closing bracket; at least one item. -/
def readItems : Nat → List Char → Option (List Raw × List Char)
  | 0, _ => none
  | fuel + 1, cs =>
    match readValue fuel cs with
    | none => none
    | some (item, rest) =>
      match skip rest with
      | ']' :: rest => some ([item], rest)
      | ',' :: rest =>
        match skip rest with
        | ']' :: rest => some ([item], rest)
        | _ => (readItems fuel rest).map fun r => (item :: r.1, r.2)
      | _ => none

/-- The fields of a table up to and with its closing brace; at least one field. -/
def readFields : Nat → List Char → Option (List (String × Raw) × List Char)
  | 0, _ => none
  | fuel + 1, cs =>
    match readName? (skip cs) with
    | none => none
    | some (name, rest) =>
      match skip rest with
      | ':' :: rest =>
        match readValue fuel rest with
        | none => none
        | some (item, rest) =>
          match skip rest with
          | '\x7d' :: rest => some ([(name, item)], rest)
          | ',' :: rest =>
            match skip rest with
            | '\x7d' :: rest => some ([(name, item)], rest)
            | _ => (readFields fuel rest).map fun r => ((name, item) :: r.1, r.2)
          | _ => none
      | _ => none

end

/-- The value that a text writes, with white space around it.  Of fields of one name, the last one
counts. -/
def parse? (text : String) : Option Raw :=
  let cs := text.toList
  match readValue (2 * cs.length + 2) cs with
  | some (v, rest) => if (skip rest).isEmpty then some v else none
  | none => none

end Delegation.Json5
