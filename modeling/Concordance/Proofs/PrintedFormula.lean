import Concordance.Proofs.NormalTerms
import Concordance.Query.Piece

/-!
# The printed form of a formula

A printed formula is the form of one formula only, although negation is printed without parentheses
and the connectives are printed as words. What keeps the forms apart is the case of the terms: a
term is in lower case and has no blanks and no parentheses, so none of its characters begins or ends
a sign (`Alphabet.IsReduced.not_mem_signCharacters`). The first character of a printed formula
therefore tells what kind of formula it is, and a term ends where a sign begins.

The induction is carried by a statement about a printed formula with more text behind it
(`Formula.IsUnambiguous`): what agrees with such a text has the same formula in front and the same
rest behind it, if neither rest could go on with a term.
-/

namespace Concordance

variable {s t : List Char}

/-! ### Terms between signs -/

/-- The characters with which the signs of a printed formula begin and end. -/
def signCharacters : List Char := ['(', ')', ' ', 'N']

/-- A text that does not go on with a term: it is empty, or begins with a sign. -/
def EndsTerm (s : List Char) : Prop := ∀ c ∈ s.head?, c ∈ signCharacters

theorem endsTerm_nil : EndsTerm [] := by simp [EndsTerm]

theorem endsTerm_cons {c : Char} (h : c ∈ signCharacters) (s : List Char) : EndsTerm (c :: s) := by
  simpa [EndsTerm] using h

/-- The term in front of a text is what stands before the first sign. -/
theorem takeWhile_append_of_endsTerm (ht : ∀ c ∈ t, c ∉ signCharacters) (hs : EndsTerm s) :
    (t ++ s).takeWhile (· ∉ signCharacters) = t := by
  rw [List.takeWhile_append_of_pos (by simpa using ht)]
  rcases s with - | ⟨c, s⟩
  · simp
  · have hc : c ∈ signCharacters := hs c rfl
    simp [hc]

/-- **No character of a term begins or ends a sign.** -/
theorem Alphabet.IsReduced.not_mem_signCharacters {a : Alphabet} (h : a.IsReduced t) :
    ∀ c ∈ t, c ∉ signCharacters := by
  have hblank : a.isLetter ' ' = false := isLetter_of_isBlank (by decide)
  have hopening : a.isLetter '(' = false := by cases a <;> decide
  have hclosing : a.isLetter ')' = false := by cases a <;> decide
  have hcapital : lowerChar 'N' ≠ ['N'] := by decide
  have hother : ∀ c, c ≠ '\u0307' → a.isLetter c = false → c ∉ t := fun c hdot hno hc ↦
    Bool.false_ne_true (hno.symm.trans (h.isLetter_of_mem c hc hdot).1)
  intro c hc hsign
  simp only [signCharacters, List.mem_cons, List.not_mem_nil, or_false] at hsign
  rcases hsign with rfl | rfl | rfl | rfl
  · exact hother _ (by decide) hopening hc
  · exact hother _ (by decide) hclosing hc
  · exact hother _ (by decide) hblank hc
  · exact hcapital (h.isLetter_of_mem _ hc (by decide)).2

/-! ### Printed formulas -/

namespace Connective

/-- The sign of a connective in a printed formula. -/
def sign : Connective → List Char
  | and => " AND ".toList
  | or => " OR ".toList

/-- A term ends before a sign, of either connective. -/
theorem endsTerm_sign (c : Connective) (s : List Char) : EndsTerm (c.sign ++ s) := by
  cases c <;> exact endsTerm_cons (by decide) _

/-- The second character of a sign tells which one it is. -/
theorem sign_append_inj {c c' : Connective} {s t : List Char} (h : c.sign ++ s = c'.sign ++ t) :
    c = c' ∧ s = t := by
  cases c <;> cases c' <;> simp_all [sign]

end Connective

namespace Formula

/-- The terms of a formula, from left to right. -/
def terms : Formula → List String
  | term t => [t]
  | and l r => l.terms ++ r.terms
  | or l r => l.terms ++ r.terms
  | not x => x.terms

/-- Every term of the formula can be told from the signs around it. -/
def IsLegible (f : Formula) : Prop :=
  ∀ t ∈ f.terms, t.toList ≠ [] ∧ ∀ c ∈ t.toList, c ∉ signCharacters

/-- **Formulas over terms of texts are legible**, whichever alphabets the texts were read in. -/
theorem isLegible_of_terms {f : Formula}
    (h : ∀ t ∈ f.terms, ∃ (a : Alphabet) (source : String), t ∈ a.terms source) : f.IsLegible := by
  intro t ht
  obtain ⟨a, source, hmem⟩ := h t ht
  have hreduced : a.IsReduced t.toList := Alphabet.isReduced_of_mem_terms hmem
  exact ⟨hreduced.ne_nil, hreduced.not_mem_signCharacters⟩

/-- The formula with a connective between two formulas. -/
def binary : Connective → Formula → Formula → Formula
  | .and => and
  | .or => or

/-- The parts of a printed connective, with the text behind it. -/
theorem toList_text_binary (c : Connective) (l r : Formula) (s : List Char) :
    (binary c l r).text.toList ++ s =
      '(' :: (l.text.toList ++ (c.sign ++ (r.text.toList ++ ')' :: s))) := by
  cases c <;> simp [binary, text, Connective.sign]

theorem toList_text_not (x : Formula) (s : List Char) :
    (not x).text.toList ++ s = "NOT ".toList ++ (x.text.toList ++ s) := by
  simp [text]

theorem isLegible_binary_iff {c : Connective} {l r : Formula} :
    (binary c l r).IsLegible ↔ l.IsLegible ∧ r.IsLegible := by
  cases c <;> exact List.forall_mem_append

/-- A term begins with no sign. -/
theorem IsLegible.head_not_mem {w : String} (h : (term w).IsLegible) {c : Char} {s t : List Char}
    (heq : (term w).text.toList ++ s = c :: t) : c ∉ signCharacters := by
  obtain ⟨hne, hall⟩ := h w (by simp [terms])
  obtain ⟨d, w', hw⟩ := List.exists_cons_of_ne_nil hne
  rw [text, hw] at heq
  obtain ⟨rfl, -⟩ := List.cons.inj heq
  exact hall d (by simp [hw])

/-! ### What stands in front of a text -/

/-- In front of a text that does not go on with a term the printed formula is found in one way
only. -/
def IsUnambiguous (f : Formula) : Prop :=
  ∀ g s t, g.IsLegible → EndsTerm s → EndsTerm t →
    f.text.toList ++ s = g.text.toList ++ t → f = g ∧ s = t

/-- Two terms that begin one text end at the same place of it, and nothing but a term begins like
one. -/
theorem isUnambiguous_term {w : String} (hw : (term w).IsLegible) : (term w).IsUnambiguous := by
  intro g s t hg hs ht h
  cases g with
  | term w' =>
    have hfront := takeWhile_append_of_endsTerm (hw w (by simp [terms])).2 hs
    have hfront' := takeWhile_append_of_endsTerm (hg w' (by simp [terms])).2 ht
    rw [text, text] at h
    rw [h, hfront'] at hfront
    obtain rfl := String.toList_inj.1 hfront
    exact ⟨rfl, List.append_cancel_left h⟩
  | and l r =>
    exact absurd (by decide) (hw.head_not_mem (h.trans (toList_text_binary .and l r t)))
  | or l r =>
    exact absurd (by decide) (hw.head_not_mem (h.trans (toList_text_binary .or l r t)))
  | not x => exact absurd (by decide) (hw.head_not_mem (h.trans (toList_text_not x t)))

/-- Parentheses show a connective; behind the left part stands its sign, and behind the right one a
parenthesis, where no term goes on. -/
theorem isUnambiguous_binary {l r : Formula} (c : Connective) (hl : l.IsUnambiguous)
    (hr : r.IsUnambiguous) : (binary c l r).IsUnambiguous := by
  intro g s t hg hs ht h
  rw [toList_text_binary] at h
  -- of a formula with a connective, the left side comes first, and then the sign tells which it is
  have hbinary : ∀ c' l' r', (binary c' l' r').IsLegible →
      '(' :: (l.text.toList ++ (c.sign ++ (r.text.toList ++ ')' :: s))) =
        (binary c' l' r').text.toList ++ t → binary c l r = binary c' l' r' ∧ s = t := by
    intro c' l' r' hlegible h
    obtain ⟨hl', hr'⟩ := isLegible_binary_iff.1 hlegible
    rw [toList_text_binary] at h
    obtain ⟨rfl, hsign⟩ :=
      hl l' _ _ hl' (c.endsTerm_sign _) (c'.endsTerm_sign _) (List.cons.inj h).2
    obtain ⟨rfl, hright⟩ := Connective.sign_append_inj hsign
    obtain ⟨rfl, hend⟩ :=
      hr r' _ _ hr' (endsTerm_cons (by decide) s) (endsTerm_cons (by decide) t) hright
    exact ⟨rfl, (List.cons.inj hend).2⟩
  cases g with
  | term w => exact absurd (by decide) (hg.head_not_mem h.symm)
  | and l' r' => exact hbinary .and l' r' hg h
  | or l' r' => exact hbinary .or l' r' hg h
  | not x => exact absurd (List.cons.inj (h.trans (toList_text_not x t))).1 (by decide)

/-- The word for negation cannot be a term, so what stands behind it is negated. -/
theorem isUnambiguous_not {x : Formula} (hx : x.IsUnambiguous) : (not x).IsUnambiguous := by
  intro g s t hg hs ht h
  rw [toList_text_not] at h
  cases g with
  | term w => exact absurd (by decide) (hg.head_not_mem h.symm)
  | and l r =>
    exact absurd (List.cons.inj (h.trans (toList_text_binary .and l r t))).1 (by decide)
  | or l r =>
    exact absurd (List.cons.inj (h.trans (toList_text_binary .or l r t))).1 (by decide)
  | not y =>
    rw [toList_text_not] at h
    obtain ⟨rfl, hrest⟩ := hx y s t hg hs ht (List.append_cancel_left h)
    exact ⟨rfl, hrest⟩

/-- **A formula with legible terms is found in one way only**, in front of any text that does not go
on with a term. -/
theorem IsLegible.isUnambiguous {f : Formula} (h : f.IsLegible) : f.IsUnambiguous := by
  induction f with
  | term w => exact isUnambiguous_term h
  | and l r ihl ihr =>
    obtain ⟨hl, hr⟩ := List.forall_mem_append.1 h
    exact isUnambiguous_binary .and (ihl hl) (ihr hr)
  | or l r ihl ihr =>
    obtain ⟨hl, hr⟩ := List.forall_mem_append.1 h
    exact isUnambiguous_binary .or (ihl hl) (ihr hr)
  | not x ih => exact isUnambiguous_not (ih h)

/-- **The printed form of a formula determines the formula**, whatever its depth, if its terms are
terms of texts, each in one of the alphabets. -/
theorem printed_form_determines_formula (f g : Formula)
    (hf : ∀ t ∈ f.terms, ∃ (a : Alphabet) (source : String), t ∈ a.terms source)
    (hg : ∀ t ∈ g.terms, ∃ (a : Alphabet) (source : String), t ∈ a.terms source) :
    f.text = g.text ↔ f = g := by
  refine ⟨fun htext ↦ ?_, fun h ↦ h ▸ rfl⟩
  have hfront : f.text.toList ++ [] = g.text.toList ++ [] := by rw [htext]
  exact ((isLegible_of_terms hf).isUnambiguous g [] [] (isLegible_of_terms hg) endsTerm_nil
    endsTerm_nil hfront).1

/-- Terms that are spelled like signs do not hide how far a negation reaches. -/
theorem printed_form_determines_formula_of_negations :
    "not" ∈ Alphabet.latin.terms "Not" ∧ "or" ∈ Alphabet.latin.terms "OR" ∧
      "кот" ∈ Alphabet.cyrillic.terms "Кот" ∧
      (not (or (and (term "not") (term "or")) (term "кот"))).text ≠
        (or (not (and (term "not") (term "or"))) (term "кот")).text := by
  have hnot : "not" ∈ Alphabet.latin.terms "Not" := by decide +kernel
  have hor : "or" ∈ Alphabet.latin.terms "OR" := by decide +kernel
  have hcat : "кот" ∈ Alphabet.cyrillic.terms "Кот" := by decide +kernel
  have hterms : ∀ t ∈ ["not", "or", "кот"],
      ∃ (a : Alphabet) (source : String), t ∈ a.terms source := by
    simp only [List.forall_mem_cons, List.not_mem_nil, false_implies, implies_true, and_true]
    exact ⟨⟨_, _, hnot⟩, ⟨_, _, hor⟩, ⟨_, _, hcat⟩⟩
  refine ⟨hnot, hor, hcat, (printed_form_determines_formula _ _ ?_ ?_).not.2 (by decide)⟩
  · exact hterms
  · exact hterms

/-- Without the condition on the terms the printed form does not determine the formula. -/
example : (term "NOT кот").text = (not (term "кот")).text := by decide

end Formula

end Concordance
