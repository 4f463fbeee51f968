/-!
# Query formulas

A query asks for the documents that make a Boolean formula over terms true. `Formula.holds` is the
meaning of a formula for one document, given by the terms that occur in it; `Formula.text` is its
printed form, in which every binary connective is put in parentheses.
-/

namespace Concordance

/-- A Boolean formula over terms. -/
inductive Formula where
  /-- The term occurs. -/
  | term (t : String)
  /-- Both sides hold. -/
  | and (left right : Formula)
  /-- At least one side holds. -/
  | or (left right : Formula)
  /-- The operand does not hold. -/
  | not (operand : Formula)
  deriving DecidableEq, Repr

namespace Formula

/-- The truth of a formula for a document in which exactly the terms with `occurs` occur. -/
def holds (occurs : String → Bool) : Formula → Bool
  | term t => occurs t
  | and l r => l.holds occurs && r.holds occurs
  | or l r => l.holds occurs || r.holds occurs
  | not x => !x.holds occurs

/-- The printed form of a formula. -/
def text : Formula → String
  | term t => t
  | and l r => "(" ++ l.text ++ " AND " ++ r.text ++ ")"
  | or l r => "(" ++ l.text ++ " OR " ++ r.text ++ ")"
  | not x => "NOT " ++ x.text

/-- The conjunction of one or more formulas, from the left. -/
def conjunction (first : Formula) (others : List Formula) : Formula :=
  others.foldl and first

/-- The disjunction of one or more formulas, from the left. -/
def disjunction (first : Formula) (others : List Formula) : Formula :=
  others.foldl or first

end Formula

end Concordance
