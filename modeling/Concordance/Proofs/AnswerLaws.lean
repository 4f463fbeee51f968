import Concordance.Proofs.Answer

/-!
# The laws of answers

What answers a formula is what makes it true, document by document, so two formulas that are true
together have one answer in every covered index (`answer_eq_of_equivalent`). That gives all laws at
once. A law of Boolean algebra is a pair of formulas over letters that no valuation tells apart, and
putting formulas for the letters keeps it that way (`Formula.holds_instantiate`). De Morgan's laws,
distribution, absorption and double negation are such pairs; the laws of complements are about a
single formula, one that is true under every valuation or under none, and the unit of the algebra is
then the set of all documents and not more.
-/

namespace Concordance

/-! ### Formulas over letters -/

namespace Formula

/-- No valuation tells the two formulas apart. -/
def Equivalent (f g : Formula) : Prop :=
  ∀ occurs, f.holds occurs = g.holds occurs

/-- The formula with a formula put for each of its letters. -/
def instantiate (σ : String → Formula) : Formula → Formula
  | term t => σ t
  | and l r => and (l.instantiate σ) (r.instantiate σ)
  | or l r => or (l.instantiate σ) (r.instantiate σ)
  | not f => not (f.instantiate σ)

/-- **An instance of a formula is true where the formula is**, when a letter counts as true if the
formula that is put for it is. -/
theorem holds_instantiate (σ : String → Formula) (occurs : String → Bool) (f : Formula) :
    (f.instantiate σ).holds occurs = f.holds fun t ↦ (σ t).holds occurs := by
  induction f with
  | term t => rfl
  | and l r ihl ihr => rw [instantiate, holds, ihl, ihr, holds]
  | or l r ihl ihr => rw [instantiate, holds, ihl, ihr, holds]
  | not f ih => rw [instantiate, holds, ih, holds]

theorem Equivalent.instantiate {f g : Formula} (h : f.Equivalent g) (σ : String → Formula) :
    (f.instantiate σ).Equivalent (g.instantiate σ) := by
  intro occurs
  rw [holds_instantiate, holds_instantiate]
  exact h _

end Formula

/-! ### Answers -/

namespace Index

variable {x : Index} {f g : Formula}

/-- **Formulas that are true together have the same answer.** -/
theorem answer_eq_of_equivalent (h : x.Covered) (hfg : f.Equivalent g) :
    x.answer f = x.answer g := by
  refine SortedSet.ext fun id ↦ ?_
  have hsat : x.satisfies id f = x.satisfies id g := hfg _
  rw [mem_answer_iff h, mem_answer_iff h, hsat]

/-- All documents answer a formula that is always true. -/
theorem answer_eq_documents (h : x.Covered) (hf : ∀ occurs, f.holds occurs = true) :
    x.answer f = x.documents := by
  refine SortedSet.ext fun id ↦ ?_
  rw [mem_answer_iff h, and_iff_left]
  exact hf _

/-- No document answers a formula that is never true. -/
theorem answer_eq_empty (h : x.Covered) (hf : ∀ occurs, f.holds occurs = false) :
    x.answer f = ∅ := by
  refine SortedSet.ext fun id ↦ iff_of_false (fun hid ↦ ?_) (SortedSet.not_mem_empty id)
  have hsat : x.satisfies id f = false := hf _
  rw [mem_answer_iff h, hsat] at hid
  exact Bool.false_ne_true hid.2

/-- **Answers are listed in ascending order, hold exactly the documents that make the formula true,
and obey every law of Boolean algebra.** A law is given by formulas over letters, for which any
formulas may be put. -/
theorem answers_obey_laws (x : Index) (h : x.Covered) :
    (∀ f, (x.answer f).toList.Pairwise (· < ·) ∧
      ∀ id, id ∈ (x.answer f).toList ↔
        id ∈ x.documents ∧ (f.holds fun t ↦ decide (id ∈ x.posting t)) = true) ∧
      (∀ l r : Formula, l.Equivalent r → ∀ σ,
        (x.answer (l.instantiate σ)).toList = (x.answer (r.instantiate σ)).toList) ∧
      (∀ l : Formula, (∀ occurs, l.holds occurs = true) → ∀ σ,
        (x.answer (l.instantiate σ)).toList = x.documents.toList) ∧
      ∀ l : Formula, (∀ occurs, l.holds occurs = false) → ∀ σ,
        (x.answer (l.instantiate σ)).toList = [] := by
  refine ⟨fun f ↦ ⟨(x.answer f).ascending, fun id ↦ mem_answer_iff h⟩, fun l r hlr σ ↦ ?_,
    fun l hl σ ↦ ?_, fun l hl σ ↦ ?_⟩
  · rw [answer_eq_of_equivalent h (hlr.instantiate σ)]
  · rw [answer_eq_documents h fun occurs ↦ (l.holds_instantiate σ occurs).trans (hl _)]
  · rw [answer_eq_empty h fun occurs ↦ (l.holds_instantiate σ occurs).trans (hl _)]
    rfl

/-- Three documents with terms, and one without any. -/
def household : Index :=
  ((((∅ : Index).add 7 ["пёс", "кот"]).add 2 ["кот"]).add 5 []).add 3 ["мышь", "пёс"]

/-- Formulas for two letters: a nested negation, and a term that is unknown to the household. -/
def letters (t : String) : Formula :=
  if t = "p" then .not (.or (.term "кот") (.not (.term "пёс"))) else .term "слон"

/-- One of De Morgan's laws and the law of excluded middle. The document without terms counts among
all documents. -/
theorem answers_obey_laws_of_household :
    household.Covered ∧ (household.answer (letters "p")).toList = [3] ∧
      (household.answer (.not (.and (letters "p") (letters "q")))).toList =
        (household.answer (.or (.not (letters "p")) (.not (letters "q")))).toList ∧
      (household.answer (.or (letters "p") (.not (letters "p")))).toList = [2, 3, 5, 7] := by
  have hcovered : household.Covered := isCovered_eq_true_iff.1 (by decide)
  have hdocuments : household.documents.toList = [2, 3, 5, 7] := by decide
  obtain ⟨-, hequivalent, halways, -⟩ := answers_obey_laws household hcovered
  refine ⟨hcovered, by decide, ?_, ?_⟩
  · exact hequivalent (.not (.and (.term "p") (.term "q")))
      (.or (.not (.term "p")) (.not (.term "q"))) (fun occurs ↦ Bool.not_and _ _) letters
  · rw [← hdocuments]
    exact halways (.or (.term "p") (.not (.term "p"))) (fun occurs ↦ Bool.or_not_self _) letters

end Index

end Concordance
