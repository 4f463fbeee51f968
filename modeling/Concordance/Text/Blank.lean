import Concordance.Text.CharClass
import Concordance.Text.Cut

/-!
# Blanks

The blanks are the characters with the `White_Space` property, line breaks among them. They divide
a query into pieces, and a line of a manifest into an identifier and an address.
-/

namespace Concordance

/-- The characters with the `White_Space` property. -/
def blankCharacters : CharClass :=
  ⟨[(0x0009, 0x000D), (0x0020, 0x0020), (0x0085, 0x0085), (0x00A0, 0x00A0), (0x1680, 0x1680),
    (0x2000, 0x200A), (0x2028, 0x2029), (0x202F, 0x202F), (0x205F, 0x205F), (0x3000, 0x3000)]⟩

/-- Is the character a blank? -/
def isBlank (c : Char) : Bool :=
  blankCharacters.contains c

/-- The maximal pieces of a text without a blank. -/
def blankFreePieces (s : List Char) : List (List Char) :=
  runs (fun c ↦ !isBlank c) s

/-- The text without the blanks at its two ends. -/
def trim (s : List Char) : List Char :=
  ((s.dropWhile isBlank).reverse.dropWhile isBlank).reverse

/-- The text before the first blank and the text after it, if there is a blank. -/
def splitAtBlank? (s : List Char) : Option (List Char × List Char) :=
  match s.dropWhile fun c ↦ !isBlank c with
  | [] => none
  | _ :: rest => some (s.takeWhile fun c ↦ !isBlank c, rest)

end Concordance
