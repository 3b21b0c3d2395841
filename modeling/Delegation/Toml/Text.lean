import Delegation.Text.Hex
/-!
# Texts of TOML

A basic text stands in double quotes and knows escapes, a literal text stands in single quotes and
knows none.  Three quotes make a text that may hold line breaks; a line break right after them does
not count.
-/

namespace Delegation.Toml

/-- A space or a tab. -/
def isSpace (c : Char) : Bool :=
  c == ' ' || c == '\t'

/-- What is left after spaces and tabs. -/
def skipSpaces (cs : List Char) : List Char :=
  cs.dropWhile isSpace

/-- What is left after a line break, if there is one. -/
def afterBreak? : List Char → Option (List Char)
  | '\n' :: rest => some rest
  | '\r' :: '\n' :: rest => some rest
  | _ => none

/-- Whether a character may stand in texts and comments as it is: no control characters but
tabs. -/
def isPlain (c : Char) : Bool :=
  c == '\t' || (0x20 ≤ c.toNat && c.toNat != 0x7f)

namespace Text

/-- The character of an escape with a code of the given width, and what is left. -/
def coded? (width : Nat) (cs : List Char) : Option (Char × List Char) :=
  let digits := cs.take width
  if digits.length < width then none
  else (Hex.toChar? digits).map (·, cs.drop width)

/-- The character that an escape stands for, after its backslash, and what is left. -/
def escape? : List Char → Option (Char × List Char)
  | 'b' :: rest => some ('\x08', rest)
  | 't' :: rest => some ('\t', rest)
  | 'n' :: rest => some ('\n', rest)
  | 'f' :: rest => some ('\x0c', rest)
  | 'r' :: rest => some ('\r', rest)
  | '\x22' :: rest => some ('\x22', rest)
  | '\x5c' :: rest => some ('\x5c', rest)
  | 'u' :: rest => coded? 4 rest
  | 'U' :: rest => coded? 8 rest
  | _ => none

/-- What is left after white space and line breaks.  Each round takes a line break. -/
def skipLinesFor : Nat → List Char → List Char
  | 0, cs => cs
  | fuel + 1, cs =>
    match afterBreak? (skipSpaces cs) with
    | some rest => skipLinesFor fuel rest
    | none => skipSpaces cs

/-- What is left after white space and line breaks. -/
def skipLines (cs : List Char) : List Char :=
  skipLinesFor (cs.length + 1) cs

/-- The end of a line after a backslash: the backslash removes all white space around it. -/
def joined? (cs : List Char) : Option (List Char) :=
  (afterBreak? (skipSpaces cs)).map skipLines

/-- A basic text on one line, after its quote.  Each round takes a character. -/
def basicFor : Nat → List Char → List Char → Option (String × List Char)
  | 0, _, _ => none
  | _ + 1, _, [] => none
  | fuel + 1, acc, c :: rest =>
    if c = '\x22' then some (String.ofList acc.reverse, rest)
    else if c = '\x5c' then
      match escape? rest with
      | some (e, rest) => basicFor fuel (e :: acc) rest
      | none => none
    else if isPlain c then basicFor fuel (c :: acc) rest
    else none

/-- A literal text on one line, after its quote. -/
def literal (cs : List Char) : Option (String × List Char) :=
  let body := cs.takeWhile fun c => isPlain c && c != '\x27'
  match cs.drop body.length with
  | '\x27' :: rest => some (String.ofList body, rest)
  | _ => none

/-- The end of a text in three quotes: the last three of up to five of them. -/
def closing? (quote : Char) (cs : List Char) : Option (List Char × List Char) :=
  let n := (cs.takeWhile (· == quote)).length
  if n < 3 then none
  else
    let extra := min (n - 3) 2
    some (List.replicate extra quote, cs.drop (extra + 3))

/-- A text in three quotes, after them.  Each round takes a character. -/
def longFor (quote : Char) : Nat → List Char → List Char → Option (String × List Char)
  | 0, _, _ => none
  | _ + 1, _, [] => none
  | fuel + 1, acc, c :: rest =>
    match closing? quote (c :: rest) with
    | some (extra, rest) => some (String.ofList (acc.reverse ++ extra), rest)
    | none =>
      if quote = '\x22' ∧ c = '\x5c' then
        match joined? rest with
        | some rest => longFor quote fuel acc rest
        | none =>
          match escape? rest with
          | some (e, rest) => longFor quote fuel (e :: acc) rest
          | none => none
      else
        match afterBreak? (c :: rest) with
        | some rest => longFor quote fuel ('\n' :: acc) rest
        | none => if isPlain c then longFor quote fuel (c :: acc) rest else none

/-- A text in three quotes, after them. -/
def long (quote : Char) (cs : List Char) : Option (String × List Char) :=
  longFor quote (cs.length + 1) [] ((afterBreak? cs).getD cs)

/-- A text on one line. -/
def short? : List Char → Option (String × List Char)
  | '\x22' :: rest => basicFor (rest.length + 1) [] rest
  | '\x27' :: rest => literal rest
  | _ => none

/-- A text of any kind. -/
def read? : List Char → Option (String × List Char)
  | '\x22' :: '\x22' :: '\x22' :: rest => long '\x22' rest
  | '\x27' :: '\x27' :: '\x27' :: rest => long '\x27' rest
  | cs => short? cs

end Text

end Delegation.Toml
