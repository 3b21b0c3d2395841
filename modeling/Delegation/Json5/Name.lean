import Delegation.Text.Alphanumeric
import Delegation.Text.Printable
/-!
# Names without quotes

The characters of which names of fields may consist when they are written without quotes.  A name
starts with a letter, a dollar sign or a low line, and goes on with these, with digits, and with
marks and signs that belong to the letter before them.
-/

namespace Delegation.Json5

/-- The ranges of marks with the property Grapheme_Extend that may not stand in names, in increasing
order: dependent vowels that take up space, and enclosing marks. -/
def refusedMarkRanges : CodeRanges := #[
  (0x488, 0x489), (0x9be, 0x9be), (0x9d7, 0x9d7), (0xb3e, 0xb3e), (0xb57, 0xb57), (0xbbe, 0xbbe),
  (0xbd7, 0xbd7), (0xcc0, 0xcc0), (0xcc2, 0xcc2), (0xcc7, 0xcc8), (0xcca, 0xccb), (0xcd5, 0xcd6),
  (0xd3e, 0xd3e), (0xd57, 0xd57), (0xdcf, 0xdcf), (0xddf, 0xddf), (0x1abe, 0x1abe),
  (0x1b35, 0x1b35), (0x1b3b, 0x1b3b), (0x1b3d, 0x1b3d), (0x1b43, 0x1b43), (0x20dd, 0x20e0),
  (0x20e2, 0x20e4), (0xa670, 0xa672), (0x1133e, 0x1133e), (0x11357, 0x11357), (0x113b8, 0x113b8),
  (0x113c2, 0x113c2), (0x113c5, 0x113c5), (0x113c7, 0x113c9), (0x113cf, 0x113cf),
  (0x114b0, 0x114b0), (0x114bd, 0x114bd), (0x115af, 0x115af), (0x11930, 0x11930),
  (0x11f41, 0x11f41), (0x1d165, 0x1d165)]

/-- The ranges of further signs with the property Diacritic, in increasing order. -/
def diacriticRanges : CodeRanges := #[
  (0x5e, 0x5e), (0x60, 0x60), (0xa8, 0xa8), (0xaf, 0xaf), (0xb4, 0xb4), (0xb7, 0xb8),
  (0x2c2, 0x2c5), (0x2d2, 0x2df), (0x2e5, 0x2eb), (0x2ed, 0x2ed), (0x2ef, 0x2ff), (0x375, 0x375),
  (0x384, 0x385), (0xf3e, 0xf3f), (0x1063, 0x1064), (0x1069, 0x106d), (0x1087, 0x108c),
  (0x108f, 0x108f), (0x109a, 0x109b), (0x1715, 0x1715), (0x1734, 0x1734), (0x1b44, 0x1b44),
  (0x1baa, 0x1baa), (0x1bf2, 0x1bf3), (0x1ce1, 0x1ce1), (0x1cf7, 0x1cf7), (0x1fbd, 0x1fbd),
  (0x1fbf, 0x1fc1), (0x1fcd, 0x1fcf), (0x1fdd, 0x1fdf), (0x1fed, 0x1fef), (0x1ffd, 0x1ffe),
  (0x302e, 0x302f), (0x309b, 0x309c), (0xa700, 0xa716), (0xa720, 0xa721), (0xa789, 0xa78a),
  (0xa92e, 0xa92e), (0xa953, 0xa953), (0xa9c0, 0xa9c0), (0xaa7b, 0xaa7b), (0xaa7d, 0xaa7d),
  (0xab5b, 0xab5b), (0xab6a, 0xab6b), (0xabec, 0xabec), (0xff3e, 0xff3e), (0xff40, 0xff40),
  (0xffe3, 0xffe3), (0x111c0, 0x111c0), (0x11235, 0x11235), (0x1134d, 0x1134d), (0x116b6, 0x116b6),
  (0x1193d, 0x1193d), (0x16ff0, 0x16ff1), (0x1d16d, 0x1d172)]

/-- The ranges of punctuation that connects words, in increasing order. -/
def connectorRanges : CodeRanges := #[
  (0x5f, 0x5f), (0x203f, 0x2040), (0x2054, 0x2054), (0xfe33, 0xfe34), (0xfe4d, 0xfe4f),
  (0xff3f, 0xff3f)]

/-- The ranges of characters that join or part the letters around them. -/
def joinerRanges : CodeRanges := #[
  (0x200c, 0x200d)]

/-- Whether a name may start with a character. -/
def startsName (c : Char) : Bool :=
  isLetter c || c == '$' || c == '_'

/-- Whether a character may stand in a name after its start. -/
def isNamePart (c : Char) : Bool :=
  startsName c || isScriptDigit c || connectorRanges.has c || joinerRanges.has c ||
    diacriticRanges.has c || (extendingRanges.has c && !refusedMarkRanges.has c)

end Delegation.Json5
