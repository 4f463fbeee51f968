import Concordance.Text.Unprintable

/-!
# Quoted text

How a piece of text appears inside a message: between double quotes, on one line, with nothing that
could be mistaken for something else. A quotation mark and a backslash are preceded by a backslash,
the common controls have letters of their own, and every other character that cannot be shown as
itself is spelled out by its code point. An apostrophe stands as itself. Names of files are quoted
like any other text.
-/

namespace Concordance

/-- The spelling of a character inside a quotation. -/
def quotedChar (c : Char) : List Char :=
  if c = '\x00' then ['\\', '0']
  else if c = '\t' then ['\\', 't']
  else if c = '\r' then ['\\', 'r']
  else if c = '\n' then ['\\', 'n']
  else if c = '\\' || c = '"' then ['\\', c]
  else if isPrintable c then [c]
  else ['\\', 'u', '\x7b'] ++ Nat.toDigits 16 c.toNat ++ ['\x7d']

/-- The quotation of a list of characters. -/
def quotedChars (s : List Char) : List Char :=
  ['"'] ++ s.flatMap quotedChar ++ ['"']

/-- A text as a message quotes it. -/
def quoted (s : String) : String :=
  String.ofList (quotedChars s.toList)

end Concordance
