import Concordance.Query.Fault
import Concordance.Query.Formula
import Concordance.Term
import Concordance.Text.Blank

/-!
# Pieces of a query

A query is divided at its blanks into pieces, and each piece is read on its own. A piece that equals
the spelling of a connective is that connective. Any other piece is an operand: a word, which may
begin with the negation character. A word stands for the conjunction of its terms, so a hyphenated
word asks for all of its parts.

The spellings are data of the reader. Where the two connectives are spelled alike, the piece is a
conjunction.
-/

namespace Concordance

/-- How the operators of a query are spelled. Case matters. -/
structure OperatorSpelling where
  /-- The piece that means conjunction. -/
  and : String
  /-- The piece that means disjunction. -/
  or : String
  /-- The character that negates the word it begins. -/
  not : Char
  deriving DecidableEq, Repr

namespace OperatorSpelling

/-- The Russian spelling, which is used unless another is asked for. -/
def russian : OperatorSpelling := ⟨"И", "ИЛИ", '!'⟩

/-- The English spelling. -/
def english : OperatorSpelling := ⟨"AND", "OR", '!'⟩

end OperatorSpelling

/-- The connectives between operands. -/
inductive Connective where
  | and
  | or
  deriving DecidableEq, Repr

/-- A piece of a query, with its text as it was typed. -/
inductive Piece where
  /-- A connective. -/
  | connective (c : Connective) (raw : String)
  /-- An operand and the formula it stands for. -/
  | operand (f : Formula) (raw : String)
  deriving DecidableEq, Repr

/-- The text of a piece as it was typed. -/
def Piece.raw : Piece → String
  | connective _ raw => raw
  | operand _ raw => raw

/-- How queries are read. The alphabet must be the one that the index was made with. -/
structure QueryReader where
  /-- The spelling of the operators. -/
  spelling : OperatorSpelling
  /-- The alphabet of the terms. -/
  alphabet : Alphabet
  deriving DecidableEq, Repr

namespace QueryReader

/-- The formula of a word: the conjunction of its terms. -/
def word (r : QueryReader) (w : String) : Except QueryFault Formula :=
  match r.alphabet.terms w with
  | [] => .error (.noIndexableText w)
  | t :: ts => .ok (.conjunction (.term t) (ts.map .term))

/-- The formula of an operand: of its word, negated if it begins with the negation character. -/
def operand (r : QueryReader) (raw : String) : Except QueryFault Formula :=
  match raw.toList with
  | [] => r.word raw
  | c :: rest =>
    if c = r.spelling.not then
      match rest with
      | [] => .error (.emptyNegation raw)
      | d :: _ =>
        if d = r.spelling.not then .error (.doubleNegation raw)
        else (r.word (String.ofList rest)).map .not
    else r.word raw

/-- The piece with the given text. -/
def piece (r : QueryReader) (raw : String) : Except QueryFault Piece :=
  if raw = r.spelling.and then .ok (.connective .and raw)
  else if raw = r.spelling.or then .ok (.connective .or raw)
  else (r.operand raw).map (.operand · raw)

/-- The pieces of a query, or the fault of the first piece that has one. -/
def pieces (r : QueryReader) (query : String) : Except QueryFault (List Piece) :=
  (blankFreePieces query.toList).mapM fun raw ↦ r.piece (String.ofList raw)

end QueryReader

end Concordance
