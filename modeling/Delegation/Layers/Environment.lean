import Delegation.Layers.Raw
/-!
# Environment variables as a layer

A variable belongs to the layer when its name starts with the prefix of the program, in any case.
The rest of its name is a path, in which two low lines stand for a dot.  Its text is a truth value
or a number if it reads as one.
-/

namespace Delegation

/-- Environment variables in the order in which they were set. -/
abbrev Environment := List (String × String)

namespace Environment

/-- What the names of variables start with, in lower case. -/
def marker : List Char :=
  "fusebox_".toList

/-- A name in which two low lines are replaced by a dot, from left to right. -/
def dotted : List Char → List Char
  | '_' :: '_' :: rest => '.' :: dotted rest
  | c :: rest => c :: dotted rest
  | [] => []

/-- The path that the name of a variable stands for, if the variable belongs to the layer. -/
def pathOf? (name : String) : Option String :=
  let name := name.toList.map lowerChar
  if marker.isPrefixOf name then
    some (String.ofList (dotted (name.drop marker.length)))
  else none

/-- The value of a variable: a truth value in any case, an integer, a floating-point number, or a
text. -/
def valueOf (text : String) : Raw :=
  let word := lowerText text
  if word = "true" then .bool true
  else if word = "false" then .bool false
  else
    match (intOfText? 10 text.toList).bind fitsSigned with
    | some n => .int n
    | none =>
      match Double.ofText? text.toList with
      | some x => .float x
      | none => .text text

/-- A list of values by name with one more value; a later value takes the place of an earlier
one. -/
def replace (layer : List (String × Raw)) (name : String) (value : Raw) : List (String × Raw) :=
  layer.filter (fun e => e.1 != name) ++ [(name, value)]

/-- The layer of the variables. -/
def layer (env : Environment) : List (String × Raw) :=
  env.foldl (fun all v =>
    match pathOf? v.1 with
    | some path => replace all path (valueOf v.2)
    | none => all) []

/-- The text of a variable. -/
def get? (env : Environment) (name : String) : Option String :=
  env.lookup name

/-- Set a variable that is not set. -/
def fill (env : Environment) (name value : String) : Environment :=
  if (env.get? name).isSome then env else env ++ [(name, value)]

end Environment

end Delegation
