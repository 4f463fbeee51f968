import Concordance.Proofs.Markup.Element
import Concordance.Proofs.Terms
import Concordance.Settings

/-!
# What is left of a page

A text is *pruned* when some stretches of it, each from a `<` to a `>`, have given way to one space
each (`Pruned`). Both passes over a page prune it, and pruning twice is pruning once
(`Pruned.trans`): the space that stands for a stretch can only be part of a later stretch, never its
first or last character, so a stretch of the second pass is again a stretch of the page. That is all
that the terms of a page need. No bracket and no space is a letter, so the terms of a pruned text
are a part of those of the whole (`Pruned.termsOf_sublist`).

After the second pass no `<` has a `>` behind it (`tagless_blank`). In such a text there is nothing
to prune (`blank_of_tagless`), and a page is as it should be after one reading.
-/

namespace Concordance

variable {c : Char} {s t u m : List Char}

/-- The second text is what is left of the first when some stretches that begin with `<` and end
with `>` are replaced by one space each. No two of the stretches overlap, and all other characters
are kept in their order. -/
inductive Pruned : List Char → List Char → Prop where
  /-- Nothing is left of nothing. -/
  | nil : Pruned [] []
  /-- A character is kept. -/
  | keep (c : Char) {s t : List Char} : Pruned s t → Pruned (c :: s) (c :: t)
  /-- A stretch is replaced. -/
  | prune (m : List Char) {s t : List Char} :
      Pruned s t → Pruned ('<' :: (m ++ '>' :: s)) (' ' :: t)

namespace Alphabet

variable (a : Alphabet)

theorem isLetter_less : a.isLetter '<' = false := by cases a <;> decide

theorem isLetter_greater : a.isLetter '>' = false := by cases a <;> decide

/-- A tag separates the terms on its two sides. -/
theorem termsOf_append_tag (s m t : List Char) :
    a.termsOf (s ++ '<' :: (m ++ '>' :: t)) =
      a.termsOf s ++ (a.termsOf m ++ a.termsOf t) := by
  rw [termsOf_append_cons a.isLetter_less, termsOf_append_cons a.isLetter_greater]

end Alphabet

namespace Pruned

theorem refl (s : List Char) : Pruned s s := by
  induction s with
  | nil => exact .nil
  | cons c s ih => exact .keep c ih

/-- The first character that is left was kept, or it stands for a stretch. -/
theorem of_cons (h : Pruned s (c :: t)) :
    (∃ s', s = c :: s' ∧ Pruned s' t) ∨
      c = ' ' ∧ ∃ m s', s = '<' :: (m ++ '>' :: s') ∧ Pruned s' t := by
  cases h with
  | keep c h => exact .inl ⟨_, rfl, h⟩
  | prune m h => exact .inr ⟨rfl, m, _, rfl, h⟩

/-- A pruned text that does not begin with a space begins as the whole did. -/
theorem of_cons_of_ne (h : Pruned s (c :: t)) (hc : c ≠ ' ') : ∃ s', s = c :: s' ∧ Pruned s' t :=
  h.of_cons.resolve_right fun hspace ↦ hc hspace.1

/-- Where what is left is divided, what it is left of can be divided. -/
theorem of_append (h : Pruned s (t ++ u)) :
    ∃ s₁ s₂, s = s₁ ++ s₂ ∧ Pruned s₁ t ∧ Pruned s₂ u := by
  induction t generalizing s with
  | nil => exact ⟨[], s, rfl, .nil, h⟩
  | cons c t ih =>
    rcases h.of_cons with ⟨s', rfl, hs⟩ | ⟨rfl, m, s', rfl, hs⟩
    · obtain ⟨s₁, s₂, rfl, h₁, h₂⟩ := ih hs
      exact ⟨c :: s₁, s₂, rfl, .keep c h₁, h₂⟩
    · obtain ⟨s₁, s₂, rfl, h₁, h₂⟩ := ih hs
      exact ⟨'<' :: (m ++ '>' :: s₁), s₂, by simp, .prune m h₁, h₂⟩

/-- **Pruning twice is pruning once.** -/
theorem trans (h : Pruned s t) (h' : Pruned t u) : Pruned s u := by
  induction h' generalizing s with
  | nil => exact h
  | keep c _ ih =>
    rcases h.of_cons with ⟨s', rfl, hs⟩ | ⟨rfl, m, s', rfl, hs⟩
    · exact .keep c (ih hs)
    · exact .prune m (ih hs)
  | prune m _ ih =>
    -- brackets are no spaces, so the first stretch had both of its ends before
    obtain ⟨s₁, rfl, h₁⟩ := h.of_cons_of_ne (by decide)
    obtain ⟨m', s₂, rfl, -, h₂⟩ := h₁.of_append
    obtain ⟨s₃, rfl, h₃⟩ := h₂.of_cons_of_ne (by decide)
    exact .prune m' (ih h₃)

/-- Where no space is left, nothing was pruned. -/
theorem eq_of_not_mem (h : Pruned s t) (ht : ' ' ∉ t) : s = t := by
  induction h with
  | nil => rfl
  | keep c _ ih => rw [ih fun hmem ↦ ht (List.mem_cons_of_mem c hmem)]
  | prune m _ _ => exact absurd List.mem_cons_self ht

/-- What is left without a space in it was there. -/
theorem isInfix_of_isInfix (h : Pruned s t) (hm : ' ' ∉ m) (hin : m <:+: t) : m <:+: s := by
  obtain ⟨t₁, t₂, rfl⟩ := hin
  obtain ⟨s₁, s₂, rfl, h₁, -⟩ := h.of_append
  obtain ⟨s₃, s₄, rfl, -, h₄⟩ := h₁.of_append
  rw [h₄.eq_of_not_mem hm]
  exact ⟨s₃, s₂, rfl⟩

theorem mem_of_mem (h : Pruned s t) (hc : c ∈ t) (hne : c ≠ ' ') : c ∈ s := by
  obtain ⟨t₁, t₂, rfl⟩ := List.append_of_mem hc
  have hin : [c] <:+: s := h.isInfix_of_isInfix (by simpa using hne.symm) ⟨t₁, t₂, by simp⟩
  exact hin.subset List.mem_cons_self

/-- **Pruning invents no terms and joins none**: the terms of what is left are a part of the terms
that there were, in the same order. -/
theorem termsOf_sublist (h : Pruned s t) (a : Alphabet) :
    (a.termsOf t).Sublist (a.termsOf s) := by
  -- what was passed may end inside a term, so it is read together with what comes next
  suffices hpassed : ∀ passed, (a.termsOf (passed ++ t)).Sublist (a.termsOf (passed ++ s)) from
    hpassed []
  induction h with
  | nil => exact fun passed ↦ List.Sublist.refl _
  | keep c _ ih =>
    intro passed
    simpa using ih (passed ++ [c])
  | prune m _ ih =>
    intro passed
    rw [a.termsOf_append_tag, a.termsOf_append_cons (Alphabet.isLetter_of_isBlank (by decide))]
    exact (List.Sublist.refl _).append ((ih []).trans (List.sublist_append_right _ _))

theorem terms_sublist {text : String} (h : Pruned text.toList t) (a : Alphabet) :
    (a.terms (String.ofList t)).Sublist (a.terms text) := by
  rw [Alphabet.terms, Alphabet.terms, String.toList_ofList]
  exact (h.termsOf_sublist a).map String.ofList

end Pruned

/-! ### Passes -/

namespace Cutout

/-- Every stretch of the kind goes from a `<` to a `>`. -/
def IsBracketed (k : Cutout) : Prop :=
  ∀ s r, k.rest? s = some r → ∃ m, s = '<' :: (m ++ '>' :: r)

variable {k : Cutout} {p : List Char}

/-- Nothing is cut out where no `<` has a `>` behind it. -/
theorem IsBracketed.rest?_eq_none (hk : k.IsBracketed) (h : c = '<' → '>' ∉ s) :
    k.rest? (c :: s) = none := by
  rw [Option.eq_none_iff_forall_ne_some]
  intro r hr
  obtain ⟨m, hm⟩ := hk _ _ hr
  obtain ⟨rfl, rfl⟩ := List.cons.inj hm
  exact h rfl (by simp)

/-- **A pass that cuts out bracketed stretches prunes.** -/
theorem pruned_blank (hk : k.IsBracketed) (s : List Char) : Pruned s (k.blank s) := by
  fun_induction k.blank s with
  | case1 => exact .nil
  | case2 c s r hr ih =>
    obtain ⟨m, hm⟩ := hk _ _ hr
    rw [hm]
    exact .prune m ih
  | case3 c s hnone ih => exact .keep c ih

/-- What has no `<` is left as it is. -/
theorem blank_append_of_not_mem (hk : k.IsBracketed) (hp : '<' ∉ p) (s : List Char) :
    k.blank (p ++ s) = p ++ k.blank s := by
  induction p with
  | nil => rfl
  | cons c p ih =>
    rw [List.mem_cons, not_or] at hp
    have hnone : k.rest? (c :: (p ++ s)) = none :=
      hk.rest?_eq_none fun hc ↦ absurd hc.symm hp.1
    rw [List.cons_append, blank_cons_of_eq_none hnone, ih hp.2, List.cons_append]

end Cutout

theorem isBracketed_tagCutout : tagCutout.IsBracketed := by
  intro s r h
  change afterTag? s = some r at h
  unfold afterTag? at h
  split at h
  next s =>
    obtain ⟨m, -, rfl⟩ := afterBracket?_eq_some_iff.1 h
    exact ⟨m, rfl⟩
  next => cases h

/-- A region ends with the `>` of its closing tag. -/
theorem isBracketed_regionCutout : regionCutout.IsBracketed := by
  intro s r h
  obtain ⟨e, -, he⟩ := List.exists_of_findSome?_eq_some (h : afterRegion? s = some r)
  obtain ⟨v, hv, hclosing⟩ := Option.bind_eq_some_iff.1 he
  obtain ⟨n, m, -, -, rfl, hm⟩ := exists_of_afterOpening? hv
  obtain ⟨m, -, rfl⟩ := afterBracket?_eq_some_iff.1 hm
  obtain ⟨w, t, ht, rfl⟩ := exists_of_afterFirstClosing? hclosing
  obtain ⟨x, -, rfl⟩ := ht.exists_eq
  exact ⟨n ++ (m ++ '>' :: (w ++ '<' :: x)), by simp⟩

/-- What a page shows is what is left of it. -/
theorem pruned_visibleChars (s : List Char) : Pruned s (visibleChars s) :=
  (Cutout.pruned_blank isBracketed_regionCutout s).trans
    (Cutout.pruned_blank isBracketed_tagCutout _)

/-! ### Texts without tags -/

/-- No `<` has a `>` behind it. -/
def Tagless (s : List Char) : Prop :=
  ∀ before after, s = before ++ '<' :: after → '>' ∉ after

theorem tagless_cons_iff : Tagless (c :: s) ↔ (c = '<' → '>' ∉ s) ∧ Tagless s := by
  constructor
  · refine fun h ↦ ⟨?_, fun before after heq ↦ h (c :: before) after (by rw [heq]; rfl)⟩
    rintro rfl
    exact h [] s rfl
  · rintro ⟨hc, h⟩ before after heq
    rcases before with - | ⟨d, before⟩
    · obtain ⟨rfl, rfl⟩ := List.cons.inj heq
      exact hc rfl
    · exact h before after (List.cons.inj heq).2

/-- **Behind the pass over the tags there are none.** -/
theorem tagless_blank (s : List Char) : Tagless (tagCutout.blank s) := by
  fun_induction tagCutout.blank s with
  | case1 => exact fun before after heq ↦ absurd heq (by simp)
  | case2 c s r hr ih => exact tagless_cons_iff.2 ⟨fun hc ↦ absurd hc (by decide), ih⟩
  | case3 c s hnone ih =>
    refine tagless_cons_iff.2 ⟨?_, ih⟩
    rintro rfl hmem
    refine afterBracket?_eq_none_iff.1 (hnone : afterBracket? s = none) ?_
    exact (Cutout.pruned_blank isBracketed_tagCutout s).mem_of_mem hmem (by decide)

/-- **In a text without tags there is nothing to prune.** -/
theorem Tagless.blank_eq {k : Cutout} (hk : k.IsBracketed) (h : Tagless s) : k.blank s = s := by
  induction s with
  | nil => exact Cutout.blank_nil
  | cons c s ih =>
    obtain ⟨hc, hs⟩ := tagless_cons_iff.1 h
    rw [Cutout.blank_cons_of_eq_none (hk.rest?_eq_none hc), ih hs]

/-! ### Pages -/

/-- **Of a page only whole tags are cut out.** What it shows is the page with some stretches that do
not overlap, each from a `<` to a `>`, replaced by one space each. So no word of what it shows is
new, and none is put together from pieces: for either alphabet, the terms of the page as a page are
a part of the terms of its source as a text, in the same order. -/
theorem visible_text_is_pruned (source : String) :
    Pruned source.toList (visibleText source).toList ∧
      ∀ a : Alphabet, (a.pageTerms source).Sublist (a.terms source) := by
  have hpruned : Pruned source.toList (visibleChars source.toList) := pruned_visibleChars _
  refine ⟨?_, fun a ↦ hpruned.terms_sublist a⟩
  rw [visibleText, String.toList_ofList]
  exact hpruned

/-- **What a page shows has no tags and nothing more to hide.** No `<` in it has a `>` anywhere
behind it, and read as a page once more it shows the same. -/
theorem visible_text_is_tagless (source : String) :
    (∀ before after, (visibleText source).toList = before ++ '<' :: after → '>' ∉ after) ∧
      visibleText (visibleText source) = visibleText source := by
  have htagless : Tagless (visibleChars source.toList) := tagless_blank _
  have hagain : visibleChars (visibleChars source.toList) = visibleChars source.toList := by
    rw [visibleChars, htagless.blank_eq isBracketed_regionCutout,
      htagless.blank_eq isBracketed_tagCutout]
  rw [visibleText, visibleText, String.toList_ofList, hagain]
  exact ⟨htagless, rfl⟩

end Concordance
