import Concordance.Proofs.Markup.Region

/-!
# What is inside a script

The body of a hidden element decides nothing about what a page shows, with one exception: it may
close an element that was opened before. A head is a region too, and it ends at the first closing
tag of a head, also when that tag is quoted in a script of the head; what comes behind it in the
script is then shown (`head_closed_in_script_shows_body`).

Everything rests on one statement about the pass over the regions. Where no element that the text
before leaves open (`LeftOpen`) is closed in the body, the pass comes to the same text for every
body, and that text is what could be left of the page with `<>` in place of the element
(`exists_blank_around`). The induction follows the pass over the text before the element, and a step
of it meets one of three things: a region that ends in that text, a region that reaches behind the
element, or a character that is kept.
-/

namespace Concordance

variable {e e' : HiddenElement} {c : Char} {s t r u m n p b q : List Char}

/-! ### Elements that are left open -/

namespace HiddenElement

/-- An opening tag of the element is begun in what is left of the text without its hidden
regions. -/
def LeftOpen (e : HiddenElement) (p : List Char) : Prop :=
  ∃ s, e.Opens s ∧ s <:+ regionCutout.blank p

theorem LeftOpen.of_region (hr : afterRegion? (c :: s) = some r) (h : e.LeftOpen r) :
    e.LeftOpen (c :: s) := by
  obtain ⟨u, hu, hsuffix⟩ := h
  rw [LeftOpen, Cutout.blank_cons_of_eq_some (k := regionCutout) hr]
  exact ⟨u, hu, hsuffix.trans (List.suffix_cons ..)⟩

theorem LeftOpen.cons (hnone : afterRegion? (c :: s) = none) (h : e.LeftOpen s) :
    e.LeftOpen (c :: s) := by
  obtain ⟨u, hu, hsuffix⟩ := h
  rw [LeftOpen, Cutout.blank_cons_of_eq_none (k := regionCutout) hnone]
  exact ⟨u, hu, hsuffix.trans (List.suffix_cons ..)⟩

end HiddenElement

theorem Pruned.endsWord (h : Pruned m t) (hm : EndsWord m) : EndsWord t := by
  intro c hc
  obtain ⟨t, rfl⟩ := List.head?_eq_some_iff.1 hc
  rcases h.of_cons with ⟨s, rfl, -⟩ | ⟨rfl, -⟩
  · exact hm c rfl
  · decide +kernel

/-- An element that is opened where no region begins is left open. -/
theorem HiddenElement.Opens.leftOpen (h : e.Opens (c :: s)) (hnone : afterRegion? (c :: s) = none) :
    e.LeftOpen (c :: s) := by
  obtain ⟨n, m, hn, hm, heq⟩ := h
  obtain ⟨rfl, rfl⟩ := List.cons.inj heq
  rw [LeftOpen, Cutout.blank_cons_of_eq_none (k := regionCutout) hnone,
    Cutout.blank_append_of_not_mem isBracketed_regionCutout hn.bracket_not_mem]
  have hblank := Cutout.pruned_blank isBracketed_regionCutout m
  exact ⟨_, ⟨n, regionCutout.blank m, hn, hblank.endsWord hm, rfl⟩, List.suffix_rfl⟩

/-- An element that is left open is named behind a `<` outside the hidden regions. -/
theorem HiddenElement.LeftOpen.exists_isInfix (h : e.LeftOpen p) :
    ∃ n, IsSpelling n e.name ∧ '<' :: n <:+: regionCutout.blank p := by
  obtain ⟨-, ⟨n, m, hn, -, rfl⟩, hsuffix⟩ := h
  exact ⟨n, hn, List.IsInfix.trans ⟨[], m, by simp⟩ hsuffix.isInfix⟩

/-! ### A text that goes on with an element -/

/-- The element around the body `b`, and the text `q` behind it. -/
def HiddenElement.around (e : HiddenElement) (b q : List Char) : List Char :=
  '<' :: (e.name ++ '>' :: (b ++ '<' :: '/' :: (e.name ++ '>' :: q)))

/-- A region that ends in a text ends at the same place when the text goes on. -/
theorem afterRegion?_append_of_eq_some (h : afterRegion? u = some r) (s : List Char) :
    afterRegion? (u ++ '<' :: s) = some (r ++ '<' :: s) := by
  obtain ⟨e, -, he⟩ := List.exists_of_findSome?_eq_some h
  obtain ⟨v, hv, hclosing⟩ := Option.bind_eq_some_iff.1 he
  obtain ⟨n, m, hn, hm, rfl, hm'⟩ := exists_of_afterOpening? hv
  obtain ⟨m, hbracket, rfl⟩ := afterBracket?_eq_some_iff.1 hm'
  rw [List.cons_append, List.append_assoc, afterRegion?_of_isSpelling hn
      (hm.append_cons (by decide +kernel) _), List.append_assoc, List.cons_append,
    afterBracket?_append_cons hbracket, Option.bind_some, afterFirstClosing?_append_cons, hclosing]
  rfl

/-- What goes on with a `<` opens nothing new before it. -/
theorem HiddenElement.Opens.of_append (h : e.Opens (c :: u ++ '<' :: s)) : e.Opens (c :: u) := by
  obtain ⟨n, m, hn, hm, heq⟩ := h
  obtain ⟨rfl, htail⟩ := List.cons.inj heq
  rcases List.append_eq_append_iff.1 htail with ⟨v, rfl, hv⟩ | ⟨v, rfl, rfl⟩
  · cases v with
    | nil => exact ⟨u, [], by simpa using hn, by simp [EndsWord], by simp⟩
    | cons d v =>
      obtain ⟨rfl, -⟩ := List.cons.inj hv
      exact absurd (by simp) hn.bracket_not_mem
  · refine ⟨n, v, hn, fun d hd ↦ hm d ?_, rfl⟩
    rw [List.head?_append, Option.mem_def.1 hd]
    rfl

/-- No closing tag begins in the opening tag of an element. -/
theorem afterFirstClosing?_openingTag (e e' : HiddenElement) (s : List Char) :
    afterFirstClosing? e' ('<' :: (e.name ++ '>' :: s)) = afterFirstClosing? e' s := by
  cases e <;> simp [HiddenElement.name, afterFirstClosing?, afterClosing?]

/-- The search that finds nothing before an element and nothing in its body goes on at its end. -/
theorem afterFirstClosing?_append_around (hu : afterFirstClosing? e' u = none)
    (hb : afterFirstClosing? e' b = none) (e : HiddenElement) (q : List Char) :
    afterFirstClosing? e' (u ++ e.around b q) =
      afterFirstClosing? e' ('<' :: '/' :: (e.name ++ '>' :: q)) := by
  rw [HiddenElement.around, afterFirstClosing?_append_cons_of_eq_none hu,
    afterFirstClosing?_openingTag, afterFirstClosing?_append_cons_of_eq_none hb]

/-- What the search finds behind the body lies behind the element or is its own end. -/
theorem exists_of_afterFirstClosing?_end
    (h : afterFirstClosing? e' ('<' :: '/' :: (e.name ++ '>' :: q)) = some r) :
    ∃ m, '>' :: q = m ++ '>' :: r := by
  obtain ⟨w, t, ht, heq⟩ := exists_of_afterFirstClosing? h
  obtain ⟨x, -, rfl⟩ := ht.exists_eq
  have hsplit : ('<' :: '/' :: e.name) ++ '>' :: q = (w ++ '<' :: x) ++ '>' :: r := by
    simpa using heq
  rcases List.append_eq_append_iff.1 hsplit with ⟨m, -, hm⟩ | ⟨m, hm, hr⟩
  · exact ⟨m, hm⟩
  · rcases m with - | ⟨c, m⟩
    · exact ⟨[], hr.symm⟩
    · obtain ⟨rfl, -⟩ := List.cons.inj hr
      have hmem : '>' ∈ '<' :: '/' :: e.name := by simp [hm]
      exact absurd hmem (by cases e <;> decide)

/-- A body that closes neither its own element nor one that the text before leaves open. -/
def HiddenElement.StaysInside (e : HiddenElement) (p b : List Char) : Prop :=
  ∀ e' : HiddenElement, e' = e ∨ e'.LeftOpen p → afterFirstClosing? e' b = none

/-- A region that begins before an element and does not end before it ends where its search finds
the end behind the body. -/
theorem afterRegion?_append_around (hn : IsSpelling n e'.name) (hm : EndsWord m)
    (hnone : afterRegion? ('<' :: (n ++ m)) = none) (hb : afterFirstClosing? e' b = none)
    (e : HiddenElement) (q : List Char) :
    afterRegion? ('<' :: (n ++ m) ++ e.around b q) =
      afterFirstClosing? e' ('<' :: '/' :: (e.name ++ '>' :: q)) := by
  rw [afterRegion?_of_isSpelling hn hm] at hnone
  rw [List.cons_append, List.append_assoc, HiddenElement.around,
    afterRegion?_of_isSpelling hn (hm.append_cons (by decide +kernel) _), ← HiddenElement.around]
  cases hbracket : afterBracket? m with
  | none =>
    -- the opening tag ends with that of the element
    have hname : '>' ∉ '<' :: e.name := by cases e <;> decide
    rw [afterBracket?_append (afterBracket?_eq_none_iff.1 hbracket), HiddenElement.around,
      ← List.cons_append, afterBracket?_append_cons hname, Option.bind_some,
      afterFirstClosing?_append_cons_of_eq_none hb]
  | some v =>
    obtain ⟨m, hend, rfl⟩ := afterBracket?_eq_some_iff.1 hbracket
    rw [hbracket, Option.bind_some] at hnone
    rw [List.append_assoc, List.cons_append, afterBracket?_append_cons hend, Option.bind_some,
      afterFirstClosing?_append_around hnone hb]

/-- **What a step of the pass does before an element does not depend on the body.** If no region
ends before the element, none begins here whatever the body is, or one that ends behind the
element. -/
theorem exists_afterRegion?_around (hnone : afterRegion? (c :: s) = none) (e : HiddenElement)
    (q : List Char) :
    ∃ o : Option (List Char),
      (∀ r ∈ o, c = '<' ∧ ∃ m, '>' :: q = m ++ '>' :: r) ∧
      ∀ b, e.StaysInside (c :: s) b → afterRegion? (c :: s ++ e.around b q) = o := by
  by_cases hopens : ∃ e' : HiddenElement, e'.Opens (c :: s)
  · obtain ⟨e', hopens⟩ := hopens
    have hopen : e'.LeftOpen (c :: s) := hopens.leftOpen hnone
    obtain ⟨n, m, hn, hm, heq⟩ := hopens
    obtain ⟨rfl, rfl⟩ := List.cons.inj heq
    exact ⟨afterFirstClosing? e' ('<' :: '/' :: (e.name ++ '>' :: q)),
      fun r hr ↦ ⟨rfl, exists_of_afterFirstClosing?_end hr⟩,
      fun b hb ↦ afterRegion?_append_around hn hm hnone (hb e' (.inr hopen)) e q⟩
  · exact ⟨none, by simp,
      fun b _ ↦ afterRegion?_eq_none fun e' he' ↦ hopens ⟨e', he'.of_append⟩⟩

theorem afterRegion?_around (hb : afterFirstClosing? e b = none) (q : List Char) :
    afterRegion? (e.around b q) = some q := by
  have hname : IsSpelling e.name e.name :=
    isSpelling_of_map_toLower (by cases e <;> decide)
  have hclosing : e.IsClosingTag ('<' :: '/' :: (e.name ++ ['>'])) :=
    ⟨e.name, [], hname, by simp, rfl⟩
  have hregion := afterRegion?_region hname (a := []) (by simp [EndsWord]) List.not_mem_nil hb
    hclosing q
  simpa [HiddenElement.around] using hregion

theorem HiddenElement.StaysInside.of_leftOpen (h : e.StaysInside p b)
    (hopen : ∀ e' : HiddenElement, e'.LeftOpen s → e'.LeftOpen p) : e.StaysInside s b :=
  fun e' he' ↦ h e' (he'.imp_right (hopen e'))

/-- **The pass over the regions does not depend on the body of an element.** For all bodies that
stay inside it comes to the same text, and that is what could be left with `<>` in place of the
element. -/
theorem exists_blank_around (e : HiddenElement) (p q : List Char) :
    ∃ t, Pruned (p ++ '<' :: '>' :: q) t ∧
      ∀ b, e.StaysInside p b → regionCutout.blank (p ++ e.around b q) = t := by
  have hrest (s : List Char) : Pruned s (regionCutout.blank s) :=
    Cutout.pruned_blank isBracketed_regionCutout s
  fun_induction regionCutout.blank p with
  | case1 =>
    exact ⟨' ' :: regionCutout.blank q, .prune [] (hrest q), fun b hb ↦
      Cutout.blank_cons_of_eq_some (k := regionCutout) (afterRegion?_around (hb e (.inl rfl)) q)⟩
  | case2 c s r hr ih =>
    obtain ⟨t, ht, hblank⟩ := ih
    obtain ⟨m, hm⟩ := isBracketed_regionCutout _ _ hr
    refine ⟨' ' :: t, ?_, fun b hb ↦ ?_⟩
    · rw [hm]
      simpa using ht.prune m
    · rw [← hblank b (hb.of_leftOpen fun e' he' ↦ he'.of_region hr)]
      exact Cutout.blank_cons_of_eq_some (k := regionCutout)
        (afterRegion?_append_of_eq_some hr _)
  | case3 c s hnone ih =>
    obtain ⟨t, ht, hblank⟩ := ih
    obtain ⟨o, ho, hregion⟩ := exists_afterRegion?_around hnone e q
    -- where a region reaches behind the element, only what follows it is left to pass
    cases o with
    | none =>
      refine ⟨c :: t, .keep c ht, fun b hb ↦ ?_⟩
      rw [← hblank b (hb.of_leftOpen fun e' he' ↦ he'.cons hnone)]
      exact Cutout.blank_cons_of_eq_none (k := regionCutout) (hregion b hb)
    | some r =>
      obtain ⟨rfl, m, hm⟩ := ho r rfl
      refine ⟨' ' :: regionCutout.blank r, ?_, fun b hb ↦
        Cutout.blank_cons_of_eq_some (k := regionCutout) (hregion b hb)⟩
      rw [hm]
      simpa using (hrest r).prune (s ++ '<' :: m)

/-! ### Scripts of a page -/

/-- A body without `</` and the name has no closing tag of the element. -/
theorem afterFirstClosing?_eq_none_of_forall
    (h : ∀ n, IsSpelling n e.name → ¬ '<' :: '/' :: n <:+: b) : afterFirstClosing? e b = none := by
  rw [afterFirstClosing?_eq_none_iff]
  rintro t ⟨n, blanks, hn, -, rfl⟩ hin
  refine h n hn (List.IsInfix.trans ?_ hin)
  exact ⟨[], blanks ++ ['>'], by simp⟩

/-- A script stays inside where no script and no style is named before it, unless it closes itself or
a head that is left open. -/
theorem staysInside_script
    (hp : ∀ e : HiddenElement, e ≠ .head → ∀ n, IsSpelling n e.name → ¬ '<' :: n <:+: p)
    (hb : ∀ n, IsSpelling n HiddenElement.script.name → ¬ '<' :: '/' :: n <:+: b)
    (hhead : HiddenElement.head.LeftOpen p →
      ∀ t, HiddenElement.head.IsClosingTag t → ¬ t <:+: b) :
    HiddenElement.script.StaysInside p b := by
  rintro e (rfl | hopen)
  · exact afterFirstClosing?_eq_none_of_forall hb
  · by_cases he : e = .head
    · subst he
      exact afterFirstClosing?_eq_none_iff.2 (hhead hopen)
    · obtain ⟨n, hn, hin⟩ := hopen.exists_isInfix
      have hpass := Cutout.pruned_blank isBracketed_regionCutout p
      have hspace : ' ' ∉ '<' :: n := by simp [hn.not_mem (c := ' ') (by cases e <;> decide)]
      exact absurd (hpass.isInfix_of_isInfix hspace hin) (hp e he n hn)

/-- The page shows the same for all scripts that stay inside, and that could be left with `<>` in
place of the script. -/
theorem exists_visibleText_around_script (p q : String) :
    ∃ t, Pruned (p ++ "<>" ++ q).toList t ∧
      ∀ b : String, HiddenElement.script.StaysInside p.toList b.toList →
        visibleText (p ++ "<script>" ++ b ++ "</script>" ++ q) = String.ofList t := by
  obtain ⟨t, hpruned, hblank⟩ := exists_blank_around .script p.toList q.toList
  refine ⟨tagCutout.blank t, ?_, fun b hb ↦ ?_⟩
  · have htag : (p ++ "<>" ++ q).toList = p.toList ++ '<' :: '>' :: q.toList := by simp
    rw [htag]
    exact hpruned.trans (Cutout.pruned_blank isBracketed_tagCutout t)
  · have hsource : (p ++ "<script>" ++ b ++ "</script>" ++ q).toList =
        p.toList ++ HiddenElement.script.around b.toList q.toList := by
      simp [HiddenElement.around, HiddenElement.name]
    rw [visibleText, visibleChars, hsource, hblank b.toList hb]

/-- **No word of a script is shown, unless the script closes a head that was opened before it.** For
a script between texts of which the first names no script and no style, the page shows the same for
any two bodies that do not close a script, and neither closes a head that is left open. For either
alphabet the terms of the page are then a part of the terms of the two texts, in their order. -/
theorem script_body_leaves_no_trace (p q b₁ b₂ : String)
    (hp : ∀ e : HiddenElement, e ≠ .head → ∀ n, IsSpelling n e.name → ¬ '<' :: n <:+: p.toList)
    (hb : ∀ b ∈ [b₁, b₂], ∀ n, IsSpelling n HiddenElement.script.name →
      ¬ '<' :: '/' :: n <:+: b.toList)
    (hhead : HiddenElement.head.LeftOpen p.toList →
      ∀ b ∈ [b₁, b₂], ∀ t, HiddenElement.head.IsClosingTag t → ¬ t <:+: b.toList) :
    visibleText (p ++ "<script>" ++ b₁ ++ "</script>" ++ q) =
        visibleText (p ++ "<script>" ++ b₂ ++ "</script>" ++ q) ∧
      ∀ a : Alphabet, (a.pageTerms (p ++ "<script>" ++ b₁ ++ "</script>" ++ q)).Sublist
        (a.terms p ++ a.terms q) := by
  obtain ⟨t, hpruned, hvisible⟩ := exists_visibleText_around_script p q
  have hshown : ∀ b ∈ [b₁, b₂],
      visibleText (p ++ "<script>" ++ b ++ "</script>" ++ q) = String.ofList t := fun b hmem ↦
    hvisible b (staysInside_script hp (hb b hmem) fun hopen ↦ hhead hopen b hmem)
  refine ⟨(hshown b₁ (by simp)).trans (hshown b₂ (by simp)).symm, fun a ↦ ?_⟩
  have htag : a.termsOf (p.toList ++ '<' :: '>' :: q.toList) =
      a.termsOf p.toList ++ a.termsOf q.toList := a.termsOf_append_tag p.toList [] q.toList
  have hterms : a.terms (p ++ "<>" ++ q) = a.terms p ++ a.terms q := by
    simp [Alphabet.terms, htag]
  rw [Alphabet.pageTerms, hshown b₁ (by simp), ← hterms]
  exact hpruned.terms_sublist a

/-- A body that quotes the closing tag of a head, behind a head that is closed. -/
theorem script_body_leaves_no_trace_of_closedHead :
    visibleText ("<Head>\n</head x></HEAD >мышь<body>" ++ "<script>" ++ "'</head>' кот" ++
        "</script>" ++ "<b>пёс</b>") =
      visibleText ("<Head>\n</head x></HEAD >мышь<body>" ++ "<script>" ++ "" ++
        "</script>" ++ "<b>пёс</b>") ∧
      ∀ a : Alphabet, (a.pageTerms ("<Head>\n</head x></HEAD >мышь<body>" ++ "<script>" ++
        "'</head>' кот" ++ "</script>" ++ "<b>пёс</b>")).Sublist
          (a.terms "<Head>\n</head x></HEAD >мышь<body>" ++ a.terms "<b>пёс</b>") := by
  have hnames : ∀ e : HiddenElement, e ≠ .head → ¬ ['<'].map smallLetter ++ e.name <:+:
      "<Head>\n</head x></HEAD >мышь<body>".toList.map smallLetter := by
    intro e
    cases e <;> decide +kernel
  have hbodies : ∀ b ∈ ["'</head>' кот", ""], ¬ ['<', '/'].map smallLetter ++
      HiddenElement.script.name <:+: b.toList.map smallLetter := by
    decide +kernel
  refine script_body_leaves_no_trace "<Head>\n</head x></HEAD >мышь<body>" "<b>пёс</b>"
    "'</head>' кот" "" (fun e he n hn ↦ hn.not_isInfix (hnames e he))
    (fun b hb n hn ↦ hn.not_isInfix (hbodies b hb)) fun hopen ↦ ?_
  obtain ⟨n, hn, hin⟩ := hopen.exists_isInfix
  exact absurd hin (hn.not_isInfix (u := ['<']) (by decide +kernel))

/-- **A head that is closed in a script shows the rest of the script.** The head ends at the closing
tag that its script quotes, and the script, of which only the end is left, is no script any more.
With an empty body nothing is shown. -/
theorem head_closed_in_script_shows_body :
    (∀ e : HiddenElement, e ≠ .head → ∀ n, IsSpelling n e.name →
      ¬ '<' :: n <:+: "<head>".toList ∧ ¬ '<' :: n <:+: "</head>".toList) ∧
    (∀ b ∈ ["</head>кот", ""], ∀ n, IsSpelling n HiddenElement.script.name →
      ¬ '<' :: '/' :: n <:+: b.toList) ∧
    visibleText ("<head>" ++ "<script>" ++ "</head>кот" ++ "</script>" ++ "</head>") = " кот  " ∧
    visibleText ("<head>" ++ "<script>" ++ "" ++ "</script>" ++ "</head>") = " " ∧
    Alphabet.cyrillic.pageTerms
      ("<head>" ++ "<script>" ++ "</head>кот" ++ "</script>" ++ "</head>") = ["кот"] := by
  have hnames : ∀ e : HiddenElement, e ≠ .head → ∀ s ∈ ["<head>", "</head>"],
      ¬ ['<'].map smallLetter ++ e.name <:+: s.toList.map smallLetter := by
    intro e
    cases e <;> decide +kernel
  have hbodies : ∀ b ∈ ["</head>кот", ""], ¬ ['<', '/'].map smallLetter ++
      HiddenElement.script.name <:+: b.toList.map smallLetter := by
    decide +kernel
  refine ⟨fun e he n hn ↦ ⟨hn.not_isInfix (hnames e he _ (by simp)),
      hn.not_isInfix (hnames e he _ (by simp))⟩,
    fun b hb n hn ↦ hn.not_isInfix (hbodies b hb), ?_, ?_, ?_⟩ <;> decide +kernel

end Concordance
