import Concordance.Markup.Visible
import Concordance.Term

/-!
# How documents are read

The settings under which the documents of a corpus become terms. An index and a query can only be
compared when both were read under the same settings.
-/

namespace Concordance

/-- The settings under which documents are read. -/
structure Settings where
  /-- The alphabet of the terms. -/
  alphabet : Alphabet
  /-- Are the documents sources of pages, of which only the visible text counts? -/
  stripMarkup : Bool
  deriving DecidableEq, Repr

/-- The terms of the visible text of a page's source. -/
def Alphabet.pageTerms (a : Alphabet) (source : String) : List String :=
  a.terms (visibleText source)

/-- The terms of a document under the settings. -/
def Settings.terms (s : Settings) (text : String) : List String :=
  if s.stripMarkup then s.alphabet.pageTerms text else s.alphabet.terms text

end Concordance
