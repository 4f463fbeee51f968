import Concordance.Proofs.Cut
import Concordance.Proofs.LowerCase
import Concordance.Text.Blank

/-!
# Terms of a text

Blanks are no letters, so a term never reaches over a blank: the terms of a text are those of its
pieces between blanks, in order (`termsOf_eq_flatMap`), and a piece has a term as soon as it has a
letter.

A term is *normal* when it consists of letters that are their own lower-case forms. A normal term is
the one term of its own text (`termsOf_of_isNormal`), and the terms of an alphabet are normal
(`isNormal_of_mem_termsOf`) unless the dotted capital I is among its letters.
-/

namespace Concordance

namespace Alphabet

variable {a : Alphabet} {c d : Char} {s t : List Char}

theorem ne_of_isLetter (hc : a.isLetter c = true) (hd : a.isLetter d = false) :
    c ≠ d := by
  rintro rfl
  exact Bool.false_ne_true (hd.symm.trans hc)

/-! ### Pieces of a text -/

/-- No blank is a letter, in either alphabet. -/
theorem isLetter_of_isBlank (h : isBlank c = true) : a.isLetter c = false := by
  have hapart : ∀ p ∈ blankCharacters.ranges, ∀ q ∈ a.letters.ranges,
      p.2 < q.1 ∨ q.2 < p.1 := by
    cases a <;> decide +kernel
  obtain ⟨p, hp, hp₁, hp₂⟩ := CharClass.contains_eq_true_iff.1 h
  rw [← Bool.not_eq_true, isLetter, CharClass.contains_eq_true_iff]
  rintro ⟨q, hq, hq₁, hq₂⟩
  rcases hapart p hp q hq with hlt | hlt <;> omega

/-- **The terms of a text are those of its pieces between blanks.** -/
theorem termsOf_eq_flatMap (a : Alphabet) (s : List Char) :
    a.termsOf s = (blankFreePieces s).flatMap a.termsOf := by
  have hruns : runs a.isLetter s = (blankFreePieces s).flatMap (runs a.isLetter) := by
    refine runs_eq_flatMap_runs (fun c hc ↦ isLetter_of_isBlank ?_) s
    simpa using hc
  rw [termsOf, hruns, List.map_flatMap]
  rfl

theorem mem_terms_of_mem_blankFreePieces {word text u : String}
    (hword : word.toList ∈ blankFreePieces text.toList) (hu : u ∈ a.terms word) :
    u ∈ a.terms text := by
  obtain ⟨u', hu', rfl⟩ := List.mem_map.1 hu
  refine List.mem_map.2 ⟨u', ?_, rfl⟩
  rw [termsOf_eq_flatMap]
  exact List.mem_flatMap.2 ⟨word.toList, hword, hu'⟩

/-- A text has a term as soon as it has a letter. -/
theorem terms_ne_nil_iff {text : String} :
    a.terms text ≠ [] ↔ ∃ c ∈ text.toList, a.isLetter c = true := by
  rw [terms, termsOf, ne_eq, List.map_eq_nil_iff, List.map_eq_nil_iff, runs_eq_nil_iff]
  simp

/-! ### Normal terms -/

/-- A term that consists of letters that are their own lower-case forms. -/
structure IsNormal (a : Alphabet) (t : List Char) : Prop where
  /-- It is not empty. -/
  ne_nil : t ≠ []
  /-- It has only letters of the alphabet. -/
  isLetter_of_mem : ∀ c ∈ t, a.isLetter c = true
  /-- Lower case leaves its letters as they are. -/
  lowerChar_of_mem : ∀ c ∈ t, lowerChar c = [c]

theorem lower_of_forall (h : ∀ c ∈ t, lowerChar c = [c]) : lower t = t := by
  induction t with
  | nil => rfl
  | cons c t ih =>
    rw [lower_cons, h c List.mem_cons_self, ih fun d hd ↦ h d (List.mem_cons_of_mem c hd)]
    rfl

/-- **A normal term is the one term of its own text.** -/
theorem termsOf_of_isNormal (h : a.IsNormal t) : a.termsOf t = [t] := by
  rw [termsOf, runs_of_forall h.isLetter_of_mem h.ne_nil, List.map_singleton,
    lower_of_forall h.lowerChar_of_mem]

/-- A normal word is its own and only term. -/
theorem terms_of_isNormal {w : String} (h : a.IsNormal w.toList) : a.terms w = [w] := by
  rw [terms, termsOf_of_isNormal h, List.map_singleton, String.ofList_toList]

/-- Blanks do not divide a normal term. -/
theorem IsNormal.blankFreePieces_eq (h : a.IsNormal t) : blankFreePieces t = [t] := by
  refine runs_of_forall (fun c hc ↦ ?_) h.ne_nil
  cases hblank : isBlank c with
  | false => rfl
  | true => exact absurd rfl (ne_of_isLetter (h.isLetter_of_mem c hc) (isLetter_of_isBlank hblank))

theorem lower_ne_nil (h : s ≠ []) : lower s ≠ [] := by
  cases s with
  | nil => exact absurd rfl h
  | cons c s =>
    rw [lower_cons]
    exact fun hnil ↦ lowerChar_ne_nil c (List.append_eq_nil_iff.1 hnil).1

/-- The lower-case form of a letter has letters in lower case only, unless it is that of the dotted
capital. -/
theorem mem_lowerChar_of_ne (hc : a.isLetter c = true) (hne : c ≠ '\u0130') (hd : d ∈ lowerChar c) :
    a.isLetter d = true ∧ lowerChar d = [d] := by
  obtain ⟨d', hd', hletter, hfixed⟩ := exists_lowerChar_eq hc hne
  rw [hd', List.mem_singleton] at hd
  subst hd
  exact ⟨hletter, hfixed⟩

/-- **The terms of a text are normal**, if the alphabet has no letter whose lower-case form is no
letter. -/
theorem isNormal_of_mem_termsOf (ha : a.isLetter '\u0130' = false) (h : t ∈ a.termsOf s) :
    a.IsNormal t := by
  obtain ⟨r, hr, rfl⟩ := List.mem_map.1 h
  have hlower : ∀ d ∈ lower r, a.isLetter d = true ∧ lowerChar d = [d] := by
    intro d hd
    obtain ⟨c, hc, hd⟩ := List.mem_flatMap.1 hd
    have hletter := (mem_of_mem_runs hr hc).2
    exact mem_lowerChar_of_ne hletter (ne_of_isLetter hletter ha) hd
  exact ⟨lower_ne_nil (ne_nil_of_mem_runs hr), fun d hd ↦ (hlower d hd).1,
    fun d hd ↦ (hlower d hd).2⟩

end Alphabet

end Concordance
