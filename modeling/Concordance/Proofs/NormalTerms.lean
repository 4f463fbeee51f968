import Mathlib.Data.List.Basic
import Concordance.Proofs.Terms

/-!
# Reading a term again

The terms of a text are letters of the alphabet in lower case, and reading such a term again gives
that term and nothing else. One letter breaks the rule. The lower-case form of the capital I with a
dot above is a small i and the mark U+0307, which belongs to no script; letters are picked out
before they are put in lower case, so the mark gets into the term, and divides it when the term is
read again.

`IsReduced` says what holds of every term: besides letters that are their own lower-case forms it
has nothing but dots. All else follows from it. A reduced term is divided at its dots
(`IsReduced.termsOf_eq`), so it is read as itself exactly if it has none, and then it is normal. The
dots come from dotted capitals (`exists_dot_iff`), which only the Latin alphabet has.
-/

namespace Concordance

namespace Alphabet

variable {a : Alphabet} {c d : Char} {r s t : List Char}

/-! ### Dots -/

theorem isLetter_dot (a : Alphabet) : a.isLetter '\u0307' = false := by
  cases a <;> decide +kernel

/-- The dotted capital is a letter of the Latin alphabet only. -/
theorem isLetter_dottedCapital_iff : a.isLetter '\u0130' = true ↔ a = .latin := by
  cases a <;> decide +kernel

/-- Of the letters, only the dotted capital has a dot in its lower-case form. -/
theorem dot_mem_lowerChar_iff (hc : a.isLetter c = true) :
    '\u0307' ∈ lowerChar c ↔ c = '\u0130' := by
  constructor
  · intro hmem
    by_contra hne
    exact ne_of_isLetter (mem_lowerChar_of_ne hc hne hmem).1 a.isLetter_dot rfl
  · rintro rfl
    decide

/-- A dot in the lower-case form of a run comes from a dotted capital in it. -/
theorem dot_mem_lower_iff (hr : ∀ c ∈ r, a.isLetter c = true) :
    '\u0307' ∈ lower r ↔ '\u0130' ∈ r := by
  rw [lower, List.mem_flatMap]
  constructor
  · rintro ⟨c, hc, hmem⟩
    rwa [← (dot_mem_lowerChar_iff (hr c hc)).1 hmem]
  · intro hmem
    exact ⟨_, hmem, (dot_mem_lowerChar_iff (hr _ hmem)).2 rfl⟩

/-! ### Reduced terms -/

/-- What every term is: letters that are their own lower-case forms, and dots. -/
structure IsReduced (a : Alphabet) (t : List Char) : Prop where
  /-- It is not empty. -/
  ne_nil : t ≠ []
  /-- Every character but a dot is a letter of the alphabet in lower case. -/
  isLetter_of_mem : ∀ c ∈ t, c ≠ '\u0307' → a.isLetter c = true ∧ lowerChar c = [c]

/-- Apart from the dot, lower case gives letters that are their own lower-case forms. -/
theorem mem_lowerChar (hc : a.isLetter c = true) (hd : d ∈ lowerChar c) (hne : d ≠ '\u0307') :
    a.isLetter d = true ∧ lowerChar d = [d] := by
  rcases eq_or_ne c '\u0130' with rfl | hdotted
  · obtain rfl : d = 'i' := by
      have hpair : d = 'i' ∨ d = '\u0307' := by simpa [lowerChar] using hd
      exact hpair.resolve_right hne
    obtain rfl := isLetter_dottedCapital_iff.1 hc
    decide +kernel
  · exact mem_lowerChar_of_ne hc hdotted hd

/-- **The terms of a text are reduced.** -/
theorem isReduced_of_mem_termsOf (h : t ∈ a.termsOf s) : a.IsReduced t := by
  obtain ⟨r, hr, rfl⟩ := List.mem_map.1 h
  refine ⟨lower_ne_nil (ne_nil_of_mem_runs hr), fun d hd hne ↦ ?_⟩
  obtain ⟨c, hc, hd⟩ := List.mem_flatMap.1 hd
  exact mem_lowerChar (mem_of_mem_runs hr hc).2 hd hne

namespace IsReduced

/-- In a reduced term, just the dots are no letters. -/
theorem isLetter_iff (h : a.IsReduced t) (hc : c ∈ t) : a.isLetter c = true ↔ c ≠ '\u0307' :=
  ⟨fun hletter ↦ ne_of_isLetter hletter a.isLetter_dot, fun hne ↦ (h.isLetter_of_mem c hc hne).1⟩

theorem isNormal (h : a.IsReduced t) (hdot : '\u0307' ∉ t) : a.IsNormal t := by
  have hne : ∀ c ∈ t, c ≠ '\u0307' := fun c hc heq ↦ hdot (heq ▸ hc)
  exact ⟨h.ne_nil, fun c hc ↦ (h.isLetter_of_mem c hc (hne c hc)).1,
    fun c hc ↦ (h.isLetter_of_mem c hc (hne c hc)).2⟩

/-- **A reduced term is divided at its dots**, and otherwise left as it is. -/
theorem termsOf_eq (h : a.IsReduced t) : a.termsOf t = runs (· ≠ '\u0307') t := by
  have hruns : runs a.isLetter t = runs (· ≠ '\u0307') t :=
    runs_congr fun c hc ↦ Bool.eq_iff_iff.2 (by simpa using h.isLetter_iff hc)
  rw [termsOf, hruns]
  refine (List.map_congr_left fun r hr ↦ lower_of_forall fun c hc ↦ ?_).trans (List.map_id _)
  obtain ⟨hmem, hne⟩ := mem_of_mem_runs hr hc
  exact (h.isLetter_of_mem c hmem (by simpa using hne)).2

/-- A reduced term is read as itself exactly if it has no dot. -/
theorem termsOf_eq_singleton_iff (h : a.IsReduced t) : a.termsOf t = [t] ↔ '\u0307' ∉ t := by
  refine ⟨fun hself hdot ↦ ?_, fun hdot ↦ termsOf_of_isNormal (h.isNormal hdot)⟩
  rw [h.termsOf_eq] at hself
  have hmem : t ∈ runs (· ≠ '\u0307') t := by
    rw [hself]
    exact List.mem_singleton_self t
  simpa using (mem_of_mem_runs hmem hdot).2

/-- What a reduced term is divided into is normal. -/
theorem isNormal_of_mem_termsOf (h : a.IsReduced t) (hr : r ∈ a.termsOf t) : a.IsNormal r := by
  have hreduced := isReduced_of_mem_termsOf hr
  rw [h.termsOf_eq] at hr
  exact hreduced.isNormal fun hdot ↦ by simpa using (mem_of_mem_runs hr hdot).2

end IsReduced

/-- **A text has a term with a dot exactly if it has a dotted capital** and the alphabet is
Latin. -/
theorem exists_dot_iff :
    (∃ t ∈ a.termsOf s, '\u0307' ∈ t) ↔ a = .latin ∧ '\u0130' ∈ s := by
  have hletters : ∀ r ∈ runs a.isLetter s, ∀ c ∈ r, a.isLetter c = true :=
    fun r hr c hc ↦ (mem_of_mem_runs hr hc).2
  constructor
  · rintro ⟨t, ht, hdot⟩
    obtain ⟨r, hr, rfl⟩ := List.mem_map.1 ht
    obtain ⟨hmem, hletter⟩ := mem_of_mem_runs hr ((dot_mem_lower_iff (hletters r hr)).1 hdot)
    exact ⟨isLetter_dottedCapital_iff.1 hletter, hmem⟩
  · rintro ⟨ha, hmem⟩
    have hflatten : '\u0130' ∈ (runs a.isLetter s).flatten := by
      rw [flatten_runs]
      exact List.mem_filter.2 ⟨hmem, isLetter_dottedCapital_iff.2 ha⟩
    obtain ⟨r, hr, hin⟩ := List.mem_flatten.1 hflatten
    exact ⟨lower r, List.mem_map_of_mem hr, (dot_mem_lower_iff (hletters r hr)).2 hin⟩

/-! ### Terms as texts -/

theorem terms_eq_singleton_iff {w : String} :
    a.terms w = [w] ↔ a.termsOf w.toList = [w.toList] := by
  have hself : [w] = [w.toList].map String.ofList := by simp
  rw [terms, hself]
  exact (List.map_injective_iff.2 fun _ _ ↦ String.ofList_inj.1).eq_iff

theorem mem_terms_iff {text w : String} : w ∈ a.terms text ↔ w.toList ∈ a.termsOf text.toList := by
  rw [terms, List.mem_map]
  constructor
  · rintro ⟨t, ht, rfl⟩
    rwa [String.toList_ofList]
  · intro hw
    exact ⟨w.toList, hw, String.ofList_toList⟩

/-- The terms of a text are reduced. -/
theorem isReduced_of_mem_terms {text w : String} (h : w ∈ a.terms text) : a.IsReduced w.toList :=
  isReduced_of_mem_termsOf (mem_terms_iff.1 h)

/-- **Terms are normal where no dotted capital is read.** Every term of a text is in lower case, and
has no characters but letters of the alphabet and dots. Read again, it is divided at its dots and
nothing else happens to it: so it is read as itself exactly if it has no dot, and what it is divided
into is read as itself in any case. All terms of a text are letters and are read as themselves
exactly if the alphabet is not Latin or the text has no dotted capital. -/
theorem terms_are_normal_without_dotted_capital (a : Alphabet) (text : String) :
    (∀ w ∈ a.terms text,
      lower w.toList = w.toList ∧
      (∀ c ∈ w.toList, a.isLetter c = true ∨ c = '\u0307') ∧
      a.terms w = (runs (· ≠ '\u0307') w.toList).map String.ofList ∧
      (a.terms w = [w] ↔ '\u0307' ∉ w.toList) ∧
      ∀ u ∈ a.terms w, (∀ c ∈ u.toList, a.isLetter c = true) ∧ a.terms u = [u]) ∧
    ((∀ w ∈ a.terms text, (∀ c ∈ w.toList, a.isLetter c = true) ∧ a.terms w = [w]) ↔
      ¬ (a = .latin ∧ '\u0130' ∈ text.toList)) := by
  refine ⟨fun w hw ↦ ?_, ?_⟩
  · have hreduced := isReduced_of_mem_terms hw
    refine ⟨lower_of_forall fun c hc ↦ ?_, fun c hc ↦ ?_, ?_, ?_, fun u hu ↦ ?_⟩
    · rcases eq_or_ne c '\u0307' with rfl | hne
      · decide
      · exact (hreduced.isLetter_of_mem c hc hne).2
    · exact or_iff_not_imp_right.2 fun hne ↦ (hreduced.isLetter_of_mem c hc hne).1
    · rw [terms, hreduced.termsOf_eq]
    · rw [terms_eq_singleton_iff, hreduced.termsOf_eq_singleton_iff]
    · have hnormal := hreduced.isNormal_of_mem_termsOf (mem_terms_iff.1 hu)
      exact ⟨hnormal.isLetter_of_mem, terms_of_isNormal hnormal⟩
  · rw [← exists_dot_iff]
    constructor
    · rintro hall ⟨t, ht, hdot⟩
      have hletter := (hall (String.ofList t) (List.mem_map_of_mem ht)).1 '\u0307'
      rw [String.toList_ofList, isLetter_dot] at hletter
      exact absurd (hletter hdot) Bool.false_ne_true
    · intro hnone w hw
      have hnormal : a.IsNormal w.toList :=
        (isReduced_of_mem_terms hw).isNormal fun hdot ↦ hnone ⟨_, mem_terms_iff.1 hw, hdot⟩
      exact ⟨hnormal.isLetter_of_mem, terms_of_isNormal hnormal⟩

/-- A term that two dots divide, and one that is normal. -/
theorem terms_are_normal_without_dotted_capital_of_bothWords :
    "di\u0307yarbaki\u0307r" ∈ Alphabet.latin.terms "DİYARBAKİR, Кот" ∧
      Alphabet.latin.terms "di\u0307yarbaki\u0307r" = ["di", "yarbaki", "r"] ∧
      Alphabet.latin.terms "yarbaki" = ["yarbaki"] ∧
      ∀ w ∈ Alphabet.cyrillic.terms "DİYARBAKİR, Кот", Alphabet.cyrillic.terms w = [w] := by
  have hmem : "di\u0307yarbaki\u0307r" ∈ Alphabet.latin.terms "DİYARBAKİR, Кот" := by decide +kernel
  obtain ⟨-, -, hparts, -, hnormal⟩ :=
    (terms_are_normal_without_dotted_capital .latin "DİYARBAKİR, Кот").1 _ hmem
  have hdivided : Alphabet.latin.terms "di\u0307yarbaki\u0307r" = ["di", "yarbaki", "r"] := by
    rw [hparts]
    decide +kernel
  refine ⟨hmem, hdivided, (hnormal "yarbaki" (by rw [hdivided]; decide)).2, fun w hw ↦ ?_⟩
  exact ((terms_are_normal_without_dotted_capital .cyrillic _).2.2 (by decide) w hw).2

/-- **The term of a dotted capital has a character that is no letter**, and is read as another
term. -/
theorem dotted_capital_is_read_as_another_term :
    Alphabet.latin.terms "İ" = ["i\u0307"] ∧ Alphabet.latin.isLetter '\u0307' = false ∧
      Alphabet.latin.terms "i\u0307" = ["i"] := by
  decide +kernel

end Alphabet

end Concordance
