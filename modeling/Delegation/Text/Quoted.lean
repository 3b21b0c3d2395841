import Delegation.Text.Hex
import Delegation.Text.Printable
/-!
# Quoted texts

A text between double quotes in which every character that would be misread or cannot be shown is
escaped.
-/

namespace Delegation.Quoted

/-- One character inside double quotes: seven characters have a short escape, other unprintable
ones are written by their code. -/
def escape (c : Char) : List Char :=
  if c = '\x22' then ['\x5c', '\x22']
  else if c = '\x5c' then ['\x5c', '\x5c']
  else if c = '\n' then ['\x5c', 'n']
  else if c = '\t' then ['\x5c', 't']
  else if c = '\r' then ['\x5c', 'r']
  else if c = '\x00' then ['\x5c', '0']
  else if isPrintable c then [c]
  else ['\x5c', 'u', '\x7b'] ++ Hex.ofNatShort c.toNat ++ ['\x7d']

/-- A text between double quotes. -/
def encode (s : String) : String :=
  String.ofList ('\x22' :: s.toList.flatMap escape ++ ['\x22'])

/-- A text between double quotes in which apostrophes are escaped too. -/
def encodeStrictly (s : String) : String :=
  let escape (c : Char) : List Char := if c = '\x27' then ['\x5c', '\x27'] else escape c
  String.ofList ('\x22' :: s.toList.flatMap escape ++ ['\x22'])

/-- Quoted texts in brackets, separated by commas. -/
def encodeList (texts : List String) : String :=
  "[" ++ ", ".intercalate (texts.map encode) ++ "]"

end Delegation.Quoted
