import Concordance.Proofs.Markup.Pruning

/-!
# Hidden regions

A region ends at the first closing tag of its own element, whatever else is in it: other regions,
other closing tags, brackets without an end. So a region that begins behind a text without `<` gives
way to one space, and what comes after it is read as a page of its own
(`visible_text_behind_region`).
-/

namespace Concordance

variable {e : HiddenElement} {c : Char} {s t m n a b : List Char}

theorem EndsWord.append_cons (h : EndsWord m) (hc : isWordChar c = false) (s : List Char) :
    EndsWord (m ++ c :: s) := by
  intro d hd
  cases m with
  | nil =>
    obtain rfl : c = d := Option.some.inj hd
    exact hc
  | cons c' m => exact h d hd

/-- A closing tag that is met is the end of the search. -/
theorem HiddenElement.IsClosingTag.afterFirstClosing?_eq (ht : e.IsClosingTag t) (r : List Char) :
    afterFirstClosing? e (t ++ r) = some r := by
  have hclosing : afterClosing? e (t ++ r) = some r := afterClosing?_eq_some_iff.2 ⟨t, ht, rfl⟩
  obtain ⟨w, -, rfl⟩ := ht.exists_eq
  rw [List.cons_append] at hclosing ⊢
  rw [afterFirstClosing?, hclosing]

/-- **The first closing tag of its element ends a region.** -/
theorem afterFirstClosing?_append_closingTag (hb : afterFirstClosing? e b = none)
    (ht : e.IsClosingTag t) (r : List Char) : afterFirstClosing? e (b ++ (t ++ r)) = some r := by
  have hfound := ht.afterFirstClosing?_eq r
  obtain ⟨w, -, rfl⟩ := ht.exists_eq
  rw [List.cons_append] at hfound ⊢
  rw [afterFirstClosing?_append_cons_of_eq_none hb, hfound]

theorem afterRegion?_region (hn : IsSpelling n e.name) (ha : EndsWord a) (hbracket : '>' ∉ a)
    (hb : afterFirstClosing? e b = none) (ht : e.IsClosingTag t) (r : List Char) :
    afterRegion? ('<' :: (n ++ (a ++ '>' :: (b ++ (t ++ r))))) = some r := by
  rw [afterRegion?_of_isSpelling hn (ha.append_cons (by decide +kernel) _),
    afterBracket?_append_cons hbracket, Option.bind_some,
    afterFirstClosing?_append_closingTag hb ht]

/-- A region behind a text without `<` leaves one space between that text and what the rest
shows. -/
theorem visibleChars_append_region {p r : List Char} (hp : '<' ∉ p)
    (hs : afterRegion? ('<' :: s) = some r) :
    visibleChars (p ++ '<' :: s) = p ++ ' ' :: visibleChars r := by
  have hregions : regionCutout.blank (p ++ '<' :: s) = (p ++ [' ']) ++ regionCutout.blank r := by
    rw [Cutout.blank_append_of_not_mem isBracketed_regionCutout hp,
      Cutout.blank_cons_of_eq_some (k := regionCutout) hs, List.append_assoc, List.singleton_append]
  have hspace : '<' ∉ p ++ [' '] := by simp [hp]
  rw [visibleChars, hregions, Cutout.blank_append_of_not_mem isBracketed_tagCutout hspace,
    List.append_assoc, List.singleton_append, visibleChars]

/-- **A hidden region leaves one space and does not touch what follows.** Its element may be named
in capital and small letters, differently at its two ends; its opening tag may say anything behind
the name; and its body may be any text without a closing tag of the element. -/
theorem visible_text_behind_region (e : HiddenElement) (p n a b n' q : String)
    (hn : n.toList.map Char.toLower = e.name) (hn' : n'.toList.map Char.toLower = e.name)
    (hp : '<' ∉ p.toList) (hbracket : '>' ∉ a.toList)
    (ha : ∀ c ∈ a.toList.head?, isWordChar c = false)
    (hb : ∀ t, e.IsClosingTag t → ¬ t <:+: b.toList) :
    visibleText (p ++ "<" ++ n ++ a ++ ">" ++ b ++ "</" ++ n' ++ ">" ++ q) =
      p ++ " " ++ visibleText q := by
  have hclosing : e.IsClosingTag ('<' :: '/' :: (n'.toList ++ ['>'])) :=
    ⟨n'.toList, [], isSpelling_of_map_toLower hn', by simp, rfl⟩
  have hregion := afterRegion?_region (isSpelling_of_map_toLower hn) ha hbracket
    (afterFirstClosing?_eq_none_iff.2 hb) hclosing q.toList
  have hvisible := visibleChars_append_region hp hregion
  apply String.toList_injective
  simpa [visibleText] using hvisible

/-- A style whose opening tag has a `<` in it, and whose body has a script with misleading closing
tags, behind a text with a `>`. -/
theorem visible_text_behind_region_of_style :
    visibleText ("a > b " ++ "<" ++ "StYle" ++ " x='<'" ++ ">" ++
        "<script>\n</styles></style x></script>" ++ "</" ++ "STYLE" ++ ">" ++ "<b>пёс</b>") =
      "a > b   пёс " := by
  have hattributes : ∀ c ∈ " x='<'".toList.head?, isWordChar c = false := by
    intro c hc
    obtain rfl : ' ' = c := Option.some.inj hc
    decide +kernel
  have hregion := visible_text_behind_region .style "a > b " "StYle" " x='<'"
    "<script>\n</styles></style x></script>" "STYLE" "<b>пёс</b>" (by decide) (by decide)
    (by decide) (by decide) hattributes (afterFirstClosing?_eq_none_iff.1 (by decide +kernel))
  exact hregion.trans (by decide +kernel)

end Concordance
