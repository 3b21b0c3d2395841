import Delegation.Number.Layout
import Delegation.Number.Reading
/-!
# Values before it is known what they are for

A source gives values without knowing the types of the fields that they will fill.  A value is
converted when it fills a field, as far as that makes sense: numbers and truth values are texts too,
a number is true when it is not zero, and the usual words stand for truth values.
-/

namespace Delegation

/-- A value as a source gives it. -/
inductive Raw where
  /-- Nothing. -/
  | absent
  /-- A truth value. -/
  | bool (b : Bool)
  /-- An integer. -/
  | int (n : Int64)
  /-- A floating-point number. -/
  | float (x : Double)
  /-- A text. -/
  | text (s : String)
  /-- A list. -/
  | list (items : List Raw)
  /-- A table, with its fields in no particular order and without repeated names. -/
  | table (fields : List (String × Raw))
deriving Repr

/-- The lower-case form of a character.  Of the characters beyond ASCII, only the Kelvin sign has an
ASCII letter as its lower-case form; the others keep apart from the names of fields either way. -/
def lowerChar (c : Char) : Char :=
  if c.toNat = 0x212a then 'k' else c.toLower

/-- The lower-case form of a text. -/
def lowerText (s : String) : String :=
  String.ofList (s.toList.map lowerChar)

namespace Raw

/-- The words for true. -/
def yesWords : List String :=
  ["true", "on", "yes"]

/-- The words for false. -/
def noWords : List String :=
  ["false", "off", "no"]

/-- The value as a text. -/
def asText? : Raw → Option String
  | bool b => some (if b then "true" else "false")
  | int n => some (toString n.toInt)
  | float x => some x.display
  | text s => some s
  | absent | list _ | table _ => none

/-- The value as a truth value. -/
def asBool? : Raw → Option Bool
  | bool b => some b
  | int n => some (n != 0)
  | float x => some x.isNonzero
  | text s =>
    let word := lowerText s
    if word == "1" || yesWords.contains word then some true
    else if word == "0" || noWords.contains word then some false
    else none
  | absent | list _ | table _ => none

/-- The value as a number of 64 bits without a sign. -/
def asWord? : Raw → Option UInt64
  | bool b => some (if b then 1 else 0)
  | int n => if n < 0 then none else some n.toUInt64
  | float x => some x.roundToWord
  | text s =>
    let word := lowerText s
    if yesWords.contains word then some 1
    else if noWords.contains word then some 0
    else (plusNatOfText? 10 s.toList).bind fitsWord
  | absent | list _ | table _ => none

/-- The items of a list, each as a text. -/
def asTexts? : Raw → Option (List String)
  | list items => items.mapM asText?
  | _ => none

end Raw

end Delegation
