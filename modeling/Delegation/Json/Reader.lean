import Delegation.Json.Basic
import Delegation.Text.Hex
/-!
# Reading JSON

A reader takes the characters that are left and gives back what it read with the characters that
are left after it.  Nesting needs as much fuel as there are characters: each array, object, item
or field starts with a character of its own.
-/

namespace Delegation.Json

/-- The four characters that JSON counts as white space. -/
def isSpace (c : Char) : Bool :=
  c == ' ' || c == '\n' || c == '\t' || c == '\r'

/-- The characters that are left after white space. -/
def skipSpace (cs : List Char) : List Char :=
  cs.dropWhile isSpace

/-! ## Strings -/

/-- The number written by four hexadecimal digits. -/
def hex4? (a b c d : Char) : Option Nat :=
  Hex.toNat? [a, b, c, d]

/-- The character that a one-letter escape stands for. -/
def shortEscape? (c : Char) : Option Char :=
  if c = '\x22' then some '\x22'
  else if c = '\x5c' then some '\x5c'
  else if c = '/' then some '/'
  else if c = 'b' then some '\x08'
  else if c = 'f' then some '\x0c'
  else if c = 'n' then some '\n'
  else if c = 'r' then some '\r'
  else if c = 't' then some '\t'
  else none

/-- A piece of a string: a character, or a code that names half of a surrogate pair. -/
inductive Piece where
  /-- A character. -/
  | char (c : Char)
  /-- Half of a surrogate pair. -/
  | half (code : Nat)
deriving DecidableEq, Repr

/-- The piece that an escape of four digits stands for. -/
def Piece.ofCode (code : Nat) : Piece :=
  if 0xd800 ≤ code ∧ code < 0xe000 then .half code else .char (Char.ofNat code)

/-- The pieces of a string after its opening quote, up to and with its closing quote.  Control
characters have to be escaped. -/
def readPieces : List Char → Option (List Piece × List Char)
  | [] => none
  | '\x22' :: rest => some ([], rest)
  | '\x5c' :: 'u' :: a :: b :: c :: d :: rest =>
    match hex4? a b c d with
    | some code => (readPieces rest).map fun r => (.ofCode code :: r.1, r.2)
    | none => none
  | '\x5c' :: c :: rest =>
    match shortEscape? c with
    | some e => (readPieces rest).map fun r => (.char e :: r.1, r.2)
    | none => none
  | c :: rest =>
    if c.toNat < 0x20 then none else (readPieces rest).map fun r => (.char c :: r.1, r.2)

/-- The characters of a string: a high half joins with a low half right after it, and any other
half leaves the string without a text. -/
def joinPieces : List Piece → Option (List Char)
  | [] => some []
  | .char c :: rest => (joinPieces rest).map (c :: ·)
  | .half high :: .half low :: rest =>
    if high < 0xdc00 ∧ 0xdc00 ≤ low then
      (joinPieces rest).map
        (Char.ofNat (0x10000 + (high - 0xd800) * 0x400 + (low - 0xdc00)) :: ·)
    else none
  | .half _ :: _ => none

/-- A string after its opening quote. -/
def readContent (cs : List Char) : Option (Content × List Char) :=
  (readPieces cs).map fun r => ((joinPieces r.1).map String.ofList, r.2)

/-! ## Numbers -/

/-- The exponent after its letter: an optional sign and at least one digit. -/
def readExponent (cs : List Char) : Option (Int × List Char) :=
  let (negative, body) :=
    match cs with
    | '+' :: rest => (false, rest)
    | '-' :: rest => (true, rest)
    | rest => (false, rest)
  let digits := body.takeWhile isDecimalDigit
  if digits.isEmpty then none
  else
    let n : Int := natOfDigits digits
    some (if negative then -n else n, body.dropWhile isDecimalDigit)

/-- The part of a number after the digits before the point. -/
def readTail (negative : Bool) (whole : List Char) (cs : List Char) :
    Option (Numeral × List Char) := do
  let (fraction, rest) ←
    match cs with
    | '.' :: rest =>
      let digits := rest.takeWhile isDecimalDigit
      if digits.isEmpty then none else some (digits, rest.dropWhile isDecimalDigit)
    | rest => some ([], rest)
  match rest with
  | 'e' :: body | 'E' :: body =>
    let (e, left) ← readExponent body
    pure (⟨negative, whole, fraction, some e⟩, left)
  | left => pure (⟨negative, whole, fraction, none⟩, left)

/-- A number; a zero in front of other digits is refused. -/
def readNumeral (cs : List Char) : Option (Numeral × List Char) :=
  let (negative, body) :=
    match cs with
    | '-' :: rest => (true, rest)
    | rest => (false, rest)
  let digits := body.takeWhile isDecimalDigit
  let rest := body.dropWhile isDecimalDigit
  match digits with
  | [] => none
  | ['0'] => readTail negative ['0'] rest
  | '0' :: _ => none
  | _ => readTail negative digits rest

/-! ## Documents -/

/-- The characters that are left after a given word. -/
def expect (word : List Char) (cs : List Char) : Option (List Char) :=
  if word.isPrefixOf cs then some (cs.drop word.length) else none

mutual

/-- A document, possibly after white space. -/
def readValue : Nat → List Char → Option (Json × List Char)
  | 0, _ => none
  | fuel + 1, cs =>
    match skipSpace cs with
    | [] => none
    | '\x22' :: rest => (readContent rest).map fun r => (string r.1, r.2)
    | '[' :: rest =>
      match skipSpace rest with
      | ']' :: rest' => some (array [], rest')
      | _ => (readItems fuel rest).map fun r => (array r.1, r.2)
    | '\x7b' :: rest =>
      match skipSpace rest with
      | '\x7d' :: rest' => some (object [], rest')
      | _ => (readFields fuel rest).map fun r => (object r.1, r.2)
    | 'n' :: rest => (expect ['u', 'l', 'l'] rest).map fun r => (null, r)
    | 't' :: rest => (expect ['r', 'u', 'e'] rest).map fun r => (bool true, r)
    | 'f' :: rest => (expect ['a', 'l', 's', 'e'] rest).map fun r => (bool false, r)
    | c :: rest => (readNumeral (c :: rest)).map fun r => (number r.1, r.2)

/-- The items of an array up to and with its closing bracket; at least one item. -/
def readItems : Nat → List Char → Option (List Json × List Char)
  | 0, _ => none
  | fuel + 1, cs =>
    match readValue fuel cs with
    | none => none
    | some (item, rest) =>
      match skipSpace rest with
      | ',' :: rest' => (readItems fuel rest').map fun r => (item :: r.1, r.2)
      | ']' :: rest' => some ([item], rest')
      | _ => none

/-- The fields of an object up to and with its closing brace; at least one field. -/
def readFields : Nat → List Char → Option (List (Content × Json) × List Char)
  | 0, _ => none
  | fuel + 1, cs =>
    match skipSpace cs with
    | '\x22' :: rest =>
      match readContent rest with
      | none => none
      | some (name, rest) =>
        match skipSpace rest with
        | ':' :: rest =>
          match readValue fuel rest with
          | none => none
          | some (item, rest) =>
            match skipSpace rest with
            | ',' :: rest' => (readFields fuel rest').map fun r => ((name, item) :: r.1, r.2)
            | '\x7d' :: rest' => some ([(name, item)], rest')
            | _ => none
        | _ => none
    | _ => none

end

/-- A whole text: one document with white space around it. -/
def parse (text : String) : Option Json :=
  let cs := text.toList
  match readValue (2 * cs.length + 2) cs with
  | some (document, rest) => if (skipSpace rest).isEmpty then some document else none
  | none => none

end Delegation.Json
