import Concordance.Text.Quoted

/-!
# Faults of a query

Why a query is rejected. Three faults lie in a single piece of the query, the others in the order of
the pieces. Every text inside a fault is a piece of the query as it was typed, except that a word
without letters is given without its negation.
-/

namespace Concordance

/-- Why a query is rejected. -/
inductive QueryFault where
  /-- There are no pieces. -/
  | empty
  /-- The query begins with a connective. -/
  | leadingOperator (operator : String)
  /-- The query ends with a connective. -/
  | trailingOperator (operator : String)
  /-- A connective follows a connective. -/
  | consecutiveOperators (first second : String)
  /-- A word follows a word. -/
  | missingOperator (left right : String)
  /-- A negation stands alone. -/
  | emptyNegation (token : String)
  /-- A negation follows a negation. -/
  | doubleNegation (token : String)
  /-- A word has no letter of the alphabet. -/
  | noIndexableText (word : String)
  deriving DecidableEq, Repr

/-- The text of a fault. -/
def QueryFault.message : QueryFault → String
  | empty => "query is empty"
  | leadingOperator o => "operator " ++ quoted o ++ " has no left operand"
  | trailingOperator o => "operator " ++ quoted o ++ " has no right operand"
  | consecutiveOperators a b => "operator " ++ quoted b ++ " directly follows operator " ++ quoted a
  | missingOperator l r => "missing operator between " ++ quoted l ++ " and " ++ quoted r
  | emptyNegation t => "negation " ++ quoted t ++ " has no word after it"
  | doubleNegation t => "double negation in " ++ quoted t ++ " is not supported"
  | noIndexableText w => quoted w ++ " contains no searchable letters"

/-- The name of a fault in records. -/
def QueryFault.name : QueryFault → String
  | empty => "Empty"
  | leadingOperator _ => "LeadingOperator"
  | trailingOperator _ => "TrailingOperator"
  | consecutiveOperators _ _ => "ConsecutiveOperators"
  | missingOperator _ _ => "MissingOperator"
  | emptyNegation _ => "EmptyNegation"
  | doubleNegation _ => "DoubleNegation"
  | noIndexableText _ => "NoIndexableText"

/-- The parts of a fault, each with its name in records. -/
def QueryFault.parts : QueryFault → List (String × String)
  | empty => []
  | leadingOperator o => [("operator", o)]
  | trailingOperator o => [("operator", o)]
  | consecutiveOperators a b => [("first", a), ("second", b)]
  | missingOperator l r => [("left", l), ("right", r)]
  | emptyNegation t => [("token", t)]
  | doubleNegation t => [("token", t)]
  | noIndexableText w => [("word", w)]

/-- The record of a fault: its name, and its parts between braces. -/
def QueryFault.record (e : QueryFault) : String :=
  match e.parts with
  | [] => e.name
  | parts =>
    e.name ++ " \x7b " ++ ", ".intercalate (parts.map fun p ↦ p.1 ++ ": " ++ quoted p.2) ++ " \x7d"

end Concordance
