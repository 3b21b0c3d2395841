import Delegation.Number.Reading
import Delegation.Yaml.Token
/-!
# Values of loose YAML

A scalar without quotes is a truth value, a number or nothing if it reads as one; every other scalar
is a text.  A mapping pairs its nodes one after the other.  Nodes that make no sense may stand as
values, but not as keys: the next node takes their place.
-/

namespace Delegation.LooseYaml

open Yaml (Style)

/-- A value. -/
inductive Value where
  /-- Nothing. -/
  | null
  /-- A node that makes no sense: a scalar that does not fit its tag, or a collection inside
  itself. -/
  | senseless
  /-- A truth value. -/
  | bool (b : Bool)
  /-- An integer. -/
  | int (n : Int64)
  /-- A floating-point number as it is written. -/
  | float (text : List Char)
  /-- A text. -/
  | text (s : List Char)
  /-- A sequence. -/
  | sequence (items : List Value)
  /-- A mapping. -/
  | mapping (entries : List (Value × Value))

namespace Value

/-! ## Scalars -/

/-- The integer that a scalar reads as, if it is marked by a base or a plus sign. -/
def markedInt? : List Char → Option Int
  | '0' :: 'x' :: digits => intOfText? 16 digits
  | '0' :: 'o' :: digits => intOfText? 8 digits
  | '+' :: digits => intOfText? 10 digits
  | _ => none

/-- The integer of 64 bits that a scalar reads as. -/
def plainInt? (s : List Char) : Option Int64 :=
  ((markedInt? s).bind fitsSigned).orElse fun _ => (intOfText? 10 s).bind fitsSigned

/-- The words for numbers that are not finite, as YAML has them. -/
def specialNumbers : List String :=
  [".inf", ".Inf", ".INF", "+.inf", "+.Inf", "+.INF", "-.inf", "-.Inf", "-.INF", ".nan", ".NaN",
    ".NAN"]

/-- Whether a scalar reads as a floating-point number. -/
def isFloat (s : List Char) : Bool :=
  specialNumbers.contains (String.ofList s) || (Double.ofText? s).isSome

/-- Whether a scalar reads as nothing. -/
def isNull (s : List Char) : Bool :=
  s == ['~'] || s == "null".toList

/-- The truth value that a scalar reads as. -/
def bool? (s : List Char) : Option Bool :=
  if s = "true".toList then some true else if s = "false".toList then some false else none

/-- The value of a scalar without quotes and tag. -/
def ofPlain (s : List Char) : Value :=
  match plainInt? s with
  | some n => int n
  | none =>
    if isNull s then null
    else
      match bool? s with
      | some b => bool b
      | none => if isFloat s then float s else text s

/-- The prefix of the tags for the kinds of scalars. -/
def coreTags : List Char :=
  "tag:yaml.org,2002:".toList

/-- The value of a scalar without quotes that has a tag. -/
def ofTagged (handle suffix s : List Char) : Value :=
  if handle = coreTags then
    if suffix = "bool".toList then ((bool? s).map bool).getD senseless
    else if suffix = "int".toList then
      (((intOfText? 10 s).bind fitsSigned).map int).getD senseless
    else if suffix = "float".toList then if isFloat s then float s else senseless
    else if suffix = "null".toList then if isNull s then null else senseless
    else text s
  else text s

/-- The value of a scalar, with the handle and the suffix of its tag. -/
def ofScalar (style : Style) (tag : Option (List Char × List Char)) (s : List Char) : Value :=
  match style, tag with
  | .plain, none => ofPlain s
  | .plain, some (handle, suffix) => ofTagged handle suffix s
  | _, _ => text s

/-! ## Mappings -/

mutual

/-- Whether two values are the same; numbers are the same if they are written alike. -/
def same : Value → Value → Bool
  | null, null => true
  | senseless, senseless => true
  | bool a, bool b => a == b
  | int a, int b => a == b
  | float a, float b => a == b
  | text a, text b => a == b
  | sequence a, sequence b => sameItems a b
  | mapping a, mapping b => sameEntries a b
  | _, _ => false

/-- Whether the items of two sequences are the same. -/
def sameItems : List Value → List Value → Bool
  | [], [] => true
  | a :: as, b :: bs => same a b && sameItems as bs
  | _, _ => false

/-- Whether the entries of two mappings are the same, in their order. -/
def sameEntries : List (Value × Value) → List (Value × Value) → Bool
  | [], [] => true
  | (k, a) :: as, (l, b) :: bs => same k l && same a b && sameEntries as bs
  | _, _ => false

end

/-- The entries of nodes that are keys and values by turns.  Senseless nodes are no keys, and a key
without a value does not count. -/
def pairs : List Value → List (Value × Value)
  | [] => []
  | senseless :: rest => pairs rest
  | [_] => []
  | k :: v :: rest => (k, v) :: pairs rest

/-- Whether all keys differ. -/
def distinctKeys : List (Value × Value) → Bool
  | [] => true
  | (k, _) :: rest => !(rest.any fun e => same k e.1) && distinctKeys rest

/-- The mapping of nodes that are keys and values by turns; no key may be repeated. -/
def ofNodes? (nodes : List Value) : Option Value :=
  let entries := pairs nodes
  if distinctKeys entries then some (mapping entries) else none

end Value

end Delegation.LooseYaml
