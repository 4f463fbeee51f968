import Concordance.Index.Answer
import Concordance.Proofs.Index

/-!
# The meaning of answers

Answers are computed on posting sets; a formula also has a truth value for each document. The two
agree on covered indexes (`mem_answer_iff`): a document answers a formula exactly if it belongs to
the index and makes the formula true, when a term is read as "the document is in its posting".

Covering is needed for terms alone. A posting outside the documents would answer its own term, and
the complement of that answer would not be the answer to the negation.
-/

namespace Concordance

namespace Index

/-- The truth of a formula for a document of an index. -/
def satisfies (x : Index) (id : DocId) (f : Formula) : Bool :=
  f.holds fun t ↦ decide (id ∈ x.posting t)

/-- **A document answers a formula exactly if it is known and makes the formula true.** -/
theorem mem_answer_iff {x : Index} (h : x.Covered) {f : Formula} {id : DocId} :
    id ∈ x.answer f ↔ id ∈ x.documents ∧ x.satisfies id f = true := by
  induction f with
  | term t =>
    have hcov : id ∈ x.posting t → id ∈ x.documents := h t id
    simpa [answer, satisfies, Formula.holds] using hcov
  | and l r ihl ihr =>
    have hsat : x.satisfies id (.and l r) = (x.satisfies id l && x.satisfies id r) := rfl
    rw [answer, SortedSet.mem_inter, ihl, ihr, hsat, Bool.and_eq_true]
    exact and_and_left.symm
  | or l r ihl ihr =>
    have hsat : x.satisfies id (.or l r) = (x.satisfies id l || x.satisfies id r) := rfl
    rw [answer, SortedSet.mem_union, ihl, ihr, hsat, Bool.or_eq_true, and_or_left]
  | not f ih =>
    have hsat : x.satisfies id (.not f) = !x.satisfies id f := rfl
    rw [answer, SortedSet.mem_diff, ih, hsat, Bool.not_eq_true']
    constructor
    · rintro ⟨hid, hnot⟩
      exact ⟨hid, by simpa [hid] using hnot⟩
    · rintro ⟨hid, hfalse⟩
      exact ⟨hid, fun hsat ↦ by simp [hfalse] at hsat⟩

/-- A query that is read is answered by the listing of the answer to its formula. -/
theorem search_of_read {r : QueryReader} {query : String} {f : Formula} (h : r.read query = .ok f)
    (x : Index) : x.search r query = .ok (x.answer f).toList := by
  simp [search, h]

end Index

end Concordance
