import Delegation.Json.Basic
import Delegation.Text.Hex
/-!
# Writing JSON

The compact text of a document: no white space, and escapes only where JSON demands them.
-/

namespace Delegation.Json

/-- One character inside a string. -/
def escape (c : Char) : List Char :=
  if c = '\x22' then ['\x5c', '\x22']
  else if c = '\x5c' then ['\x5c', '\x5c']
  else if c = '\x08' then ['\x5c', 'b']
  else if c = '\t' then ['\x5c', 't']
  else if c = '\n' then ['\x5c', 'n']
  else if c = '\x0c' then ['\x5c', 'f']
  else if c = '\r' then ['\x5c', 'r']
  else if c.toNat < 0x20 then ['\x5c', 'u'] ++ Hex.ofNat 4 c.toNat
  else [c]

/-- A string between quotes. -/
def renderText (s : String) : List Char :=
  '\x22' :: s.toList.flatMap escape ++ ['\x22']

/-- The content of a string between quotes; a string without a text is written as an empty one. -/
def renderContent (s : Content) : List Char :=
  renderText (s.getD "")

mutual

/-- The compact text of a document. -/
def render : Json → List Char
  | null => ['n', 'u', 'l', 'l']
  | bool true => ['t', 'r', 'u', 'e']
  | bool false => ['f', 'a', 'l', 's', 'e']
  | number n => n.render
  | string s => renderContent s
  | array items => '[' :: renderItems items ++ [']']
  | object fields => '\x7b' :: renderFields fields ++ ['\x7d']

/-- Documents separated by commas. -/
def renderItems : List Json → List Char
  | [] => []
  | [item] => render item
  | item :: items => render item ++ ',' :: renderItems items

/-- Fields separated by commas. -/
def renderFields : List (Content × Json) → List Char
  | [] => []
  | [(name, item)] => renderContent name ++ ':' :: render item
  | (name, item) :: fields =>
    renderContent name ++ ':' :: render item ++ ',' :: renderFields fields

end

/-- The compact text of a document. -/
def compact (document : Json) : String :=
  String.ofList (render document)

end Delegation.Json
