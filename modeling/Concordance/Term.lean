import Concordance.Text.Cut
import Concordance.Text.Letter
import Concordance.Text.LowerCase

/-!
# Terms of a text

The terms of a text are its maximal runs of letters of one alphabet, in lower case, in the order of
the text and with repetitions. Every other character separates terms: digits, punctuation, and the
letters of other scripts. Documents and queries are read by the same rule.
-/

namespace Concordance

/-- The writing system whose letters make up the terms. -/
inductive Alphabet where
  | cyrillic
  | latin
  deriving DecidableEq, Repr

namespace Alphabet

/-- The name of the alphabet in files and on the command line. -/
def name : Alphabet → String
  | cyrillic => "cyrillic"
  | latin => "latin"

/-- The alphabet with a name. -/
def named? (n : String) : Option Alphabet :=
  [cyrillic, latin].find? fun a ↦ a.name = n

/-- The letters of the alphabet. -/
def letters : Alphabet → CharClass
  | cyrillic => cyrillicLetters
  | latin => latinLetters

/-- Is the character a letter of the alphabet? -/
def isLetter (a : Alphabet) (c : Char) : Bool :=
  a.letters.contains c

/-- The terms of a list of characters, as lists of characters. -/
def termsOf (a : Alphabet) (s : List Char) : List (List Char) :=
  (runs a.isLetter s).map lower

/-- The terms of a text: its maximal runs of letters, in lower case. -/
def terms (a : Alphabet) (s : String) : List String :=
  (a.termsOf s.toList).map String.ofList

/-- **A character that is no letter separates the terms on its two sides.** -/
theorem termsOf_append_cons {a : Alphabet} {c : Char} (h : a.isLetter c = false)
    (s t : List Char) : a.termsOf (s ++ c :: t) = a.termsOf s ++ a.termsOf t := by
  simp [termsOf, runs_append_cons h]

end Alphabet

end Concordance
