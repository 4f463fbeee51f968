import Concordance.Index.Basic
import Concordance.Query.Reading

/-!
# Answers

The answer to a formula is the set of documents of an index that make it true. It is computed on
posting sets: conjunction is intersection, disjunction is union, and negation is the complement
within the documents of the index. A term that does not occur contributes the empty set, so every
formula has an answer.
-/

namespace Concordance

/-- The documents that make a formula true. -/
def Index.answer (x : Index) : Formula → SortedSet DocId
  | .term t => x.posting t
  | .and l r => (x.answer l).inter (x.answer r)
  | .or l r => (x.answer l).union (x.answer r)
  | .not f => x.documents.diff (x.answer f)

/-- The identifiers that answer a query, in ascending order, or why the query is rejected. -/
def Index.search (x : Index) (r : QueryReader) (query : String) : Except QueryFault (List DocId) :=
  match r.read query with
  | .error e => .error e
  | .ok f => .ok (x.answer f).toList

end Concordance
