import Concordance.Proofs.WordSearch

/-!
# Searching a collection in parts

Whether a document answers a formula depends on nothing but the terms that it has
(`satisfies_congr`), and covered indexes know no terms of documents that are not theirs. So where
two collections have no document in common, each document of the merged index makes the same
formulas true as in its own part. That is enough: the answer to a formula is the documents that
make it true, and the answers of the parts, merged, are the answer of the whole
(`answer_of_parts`).

For a negation both hypotheses are needed. A posting outside the documents of its own index would
count in the other part, and a document of both parts could make a formula true in one and false in
the other.

By the same argument nothing that is done for other documents decides whether a document answers a
formula (`mem_answer_afterAll_iff`).
-/

namespace Concordance

namespace Index

variable {x y : Index} {id : DocId} {f : Formula}

/-! ### The terms of a document -/

/-- The truth of a formula for a document depends on the terms of the document only. -/
theorem satisfies_congr (h : ∀ t, id ∈ x.posting t ↔ id ∈ y.posting t) (f : Formula) :
    x.satisfies id f = y.satisfies id f := by
  have hoccurs : (fun t ↦ decide (id ∈ x.posting t)) = fun t ↦ decide (id ∈ y.posting t) :=
    funext fun t ↦ decide_eq_decide.2 (h t)
  rw [satisfies, satisfies, hoccurs]

/-- A covered index has no terms of a document that it does not know. -/
theorem Covered.not_mem_posting (h : x.Covered) (hid : id ∉ x.documents) (t : String) :
    id ∉ x.posting t :=
  fun ht ↦ hid (h t id ht)

/-- In a merged index a document that only the first part knows is what it was there. -/
theorem satisfies_merge_of_left (hy : y.Covered) (hid : id ∉ y.documents) (f : Formula) :
    (x.merge y).satisfies id f = x.satisfies id f :=
  satisfies_congr (fun t ↦ by simp [mem_posting_merge, hy.not_mem_posting hid t]) f

/-- In a merged index a document that only the second part knows is what it was there. -/
theorem satisfies_merge_of_right (hx : x.Covered) (hid : id ∉ x.documents) (f : Formula) :
    (x.merge y).satisfies id f = y.satisfies id f :=
  satisfies_congr (fun t ↦ by simp [mem_posting_merge, hx.not_mem_posting hid t]) f

/-- **A document answers a formula in the whole exactly if it does so in its part.** -/
theorem mem_answer_merge_iff (hx : x.Covered) (hy : y.Covered)
    (hxy : ∀ id ∈ x.documents, id ∉ y.documents) :
    id ∈ (x.merge y).answer f ↔ id ∈ x.answer f ∨ id ∈ y.answer f := by
  rw [mem_answer_iff (hx.merge hy), mem_answer_iff hx, mem_answer_iff hy, mem_documents_merge]
  by_cases hidx : id ∈ x.documents
  · have hidy := hxy id hidx
    simp [hidx, hidy, satisfies_merge_of_left hy hidy]
  · simp [hidx, satisfies_merge_of_right hx hidx]

/-! ### Changes for other documents -/

/-- A change that is made for other documents than `id`. -/
def Change.IsElsewhere (id : DocId) : Change → Prop
  | .add i _ => i ≠ id
  | .setSource _ _ => True
  | .merge other | .mergeInto other => other.Covered ∧ id ∉ other.documents

variable {c : Change}

/-- A change to other documents keeps an index covered. -/
theorem Covered.after (h : x.Covered) (hc : c.IsElsewhere id) : (x.after c).Covered := by
  cases c with
  | add i ts => exact h.add i ts
  | setSource i url => exact h.setSource i url
  | merge other => exact h.merge hc.1
  | mergeInto other => exact hc.1.merge h

theorem mem_documents_after_iff (hc : c.IsElsewhere id) :
    id ∈ (x.after c).documents ↔ id ∈ x.documents := by
  cases c with
  | add i ts =>
    have hne : id ≠ i := fun h ↦ hc h.symm
    simp [after, hne]
  | setSource i url => rfl
  | merge other => simp [after, mem_documents_merge, hc.2]
  | mergeInto other => simp [after, mem_documents_merge, hc.2]

/-- A change to other documents leaves a document the terms that it has. -/
theorem satisfies_after (hc : c.IsElsewhere id) (f : Formula) :
    (x.after c).satisfies id f = x.satisfies id f := by
  cases c with
  | add i ts =>
    have hne : id ≠ i := fun h ↦ hc h.symm
    exact satisfies_congr (fun t ↦ by simp [after, mem_posting_add, hne]) f
  | setSource i url => rfl
  | merge other => exact satisfies_merge_of_left hc.1 hc.2 f
  | mergeInto other => exact satisfies_merge_of_right hc.1 hc.2 f

/-- **What is done for other documents decides nothing for this one.** -/
theorem mem_answer_afterAll_iff (h : x.Covered) {cs : List Change}
    (hcs : ∀ c ∈ cs, c.IsElsewhere id) : id ∈ (x.afterAll cs).answer f ↔ id ∈ x.answer f := by
  induction cs generalizing x with
  | nil => rfl
  | cons c cs ih =>
    have hc := hcs c List.mem_cons_self
    have hafter := h.after hc
    have hstep : id ∈ (x.after c).answer f ↔ id ∈ x.answer f := by
      rw [mem_answer_iff hafter, mem_answer_iff h, mem_documents_after_iff hc, satisfies_after hc]
    exact (ih hafter fun c' hc' ↦ hcs c' (List.mem_cons_of_mem c hc')).trans hstep

/-! ### Parts of a collection -/

/-- **Searching a collection in parts comes to searching the whole.** For covered indexes without a
common document, the listing of the answer to a formula in the merged index is that of the answers
in the parts, merged in ascending order. And whatever is added to an index or merged with it for
other documents, a document answers a formula exactly if it did before. -/
theorem answer_of_parts (x y : Index) (hx : x.Covered) (hy : y.Covered)
    (hxy : ∀ id ∈ x.documents, id ∉ y.documents) (f : Formula) :
    ((x.merge y).answer f).toList = (x.answer f).toList.merge (y.answer f).toList ∧
      (∀ id ∈ x.documents, id ∈ (x.merge y).answer f ↔ id ∈ x.answer f) ∧
      ∀ (id : DocId) (cs : List Change), (∀ c ∈ cs, c.IsElsewhere id) →
        (id ∈ (x.afterAll cs).answer f ↔ id ∈ x.answer f) := by
  have hunion : (x.merge y).answer f = (x.answer f).union (y.answer f) :=
    SortedSet.ext fun id ↦ by rw [mem_answer_merge_iff hx hy hxy, SortedSet.mem_union]
  have hapart : ∀ id ∈ x.answer f, id ∉ y.answer f := fun id hidx hidy ↦
    hxy id ((mem_answer_iff hx).1 hidx).1 ((mem_answer_iff hy).1 hidy).1
  refine ⟨?_, fun id hid ↦ ?_, fun id cs hcs ↦ mem_answer_afterAll_iff hx hcs⟩
  · rw [hunion, SortedSet.toList_union_of_disjoint hapart]
  · rw [mem_answer_merge_iff hx hy hxy, or_iff_left]
    exact fun hidy ↦ hxy id hid ((mem_answer_iff hy).1 hidy).1

/-- Two documents with terms. -/
def earlyPart : Index := ((∅ : Index).add 5 ["пёс"]).add 1 ["кот", "пёс"]

/-- A document with a term, and two without any. -/
def latePart : Index := (((∅ : Index).add 3 ["кот"]).add 8 []).add 2 []

/-- No cat without a dog. -/
def dogWithCat : Formula := .not (.and (.term "кот") (.not (.term "пёс")))

/-- Documents without any term answer a negation, and are merged in between the others. -/
theorem answer_of_parts_of_negations :
    earlyPart.Covered ∧ latePart.Covered ∧
      (∀ id ∈ earlyPart.documents, id ∉ latePart.documents) ∧
      ((earlyPart.merge latePart).answer dogWithCat).toList = [1, 2, 5, 8] ∧
      (5 ∈ (earlyPart.afterAll [.add 9 ["кот"], .mergeInto latePart]).answer dogWithCat ↔
        5 ∈ earlyPart.answer dogWithCat) := by
  have hearly : earlyPart.Covered := isCovered_eq_true_iff.1 (by decide)
  have hlate : latePart.Covered := isCovered_eq_true_iff.1 (by decide)
  have hdocuments : earlyPart.documents.toList = [1, 5] := by decide
  have hapart : ∀ id ∈ earlyPart.documents, id ∉ latePart.documents := by
    intro id hid
    rw [← SortedSet.mem_toList, hdocuments] at hid
    simp only [List.mem_cons, List.not_mem_nil, or_false] at hid
    rcases hid with rfl | rfl <;> decide
  obtain ⟨hmerge, -, helsewhere⟩ := answer_of_parts earlyPart latePart hearly hlate hapart dogWithCat
  refine ⟨hearly, hlate, hapart, ?_, helsewhere 5 _ fun c hc ↦ ?_⟩
  · have hfirst : (earlyPart.answer dogWithCat).toList = [1, 5] := by decide +kernel
    have hsecond : (latePart.answer dogWithCat).toList = [2, 8] := by decide +kernel
    rw [hmerge, hfirst, hsecond]
    simp
  · simp only [List.mem_cons, List.not_mem_nil, or_false] at hc
    rcases hc with rfl | rfl
    · exact (by decide : (9 : DocId) ≠ 5)
    · exact ⟨hlate, by decide⟩

end Index

end Concordance
