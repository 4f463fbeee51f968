import Concordance.Markup.Visible
import Mathlib.Data.List.Forall2
import Mathlib.Data.List.TakeWhile

/-!
# The tags of hidden elements

What the search for a hidden region finds, said without the search. An element is *opened* by a `<`
and a spelling of its name that no word character continues (`Opens`), and it is *closed* by `</`,
a spelling of its name, blanks and `>` (`IsClosingTag`).

Two facts carry what is said about regions later. No text opens two elements (`Opens.unique`), so
the three alternatives never compete for a place. And a closing tag has its only `<` in front, so
none begins before a `<` and ends behind it (`afterFirstClosing?_append_cons`): where a text goes on
with a `<`, the search runs through what is before it and then starts anew.
-/

namespace Concordance

variable {e e' : HiddenElement} {c : Char} {s t r u m n n' : List Char}

/-! ### Brackets -/

theorem afterBracket?_append (hm : '>' ∉ m) (s : List Char) :
    afterBracket? (m ++ s) = afterBracket? s := by
  induction m with
  | nil => rfl
  | cons c m ih =>
    rw [List.mem_cons, not_or] at hm
    rw [List.cons_append, afterBracket?, if_neg (Ne.symm hm.1), ih hm.2]

theorem afterBracket?_append_cons (hm : '>' ∉ m) (r : List Char) :
    afterBracket? (m ++ '>' :: r) = some r := by
  rw [afterBracket?_append hm, afterBracket?, if_pos rfl]

/-- **What is found lies behind the first `>`.** -/
theorem afterBracket?_eq_some_iff :
    afterBracket? s = some r ↔ ∃ m, '>' ∉ m ∧ s = m ++ '>' :: r := by
  constructor
  · intro h
    fun_induction afterBracket? s with
    | case1 => cases h
    | case2 s =>
      obtain rfl : s = r := Option.some.inj h
      exact ⟨[], List.not_mem_nil, rfl⟩
    | case3 c s hc ih =>
      obtain ⟨m, hm, rfl⟩ := ih h
      exact ⟨c :: m, List.not_mem_cons_of_ne_of_not_mem (Ne.symm hc) hm, rfl⟩
  · rintro ⟨m, hm, rfl⟩
    exact afterBracket?_append_cons hm r

/-- The search fails exactly if there is no `>`. -/
theorem afterBracket?_eq_none_iff : afterBracket? s = none ↔ '>' ∉ s := by
  fun_induction afterBracket? s with
  | case1 => simp
  | case2 s => simp
  | case3 c s hc ih => rw [ih, List.mem_cons, or_iff_right (Ne.symm hc)]

/-! ### Names -/

/-- The text spells the name: the letters of the name, each in one of its forms. -/
def IsSpelling (n name : List Char) : Prop :=
  List.Forall₂ (fun c l ↦ isFormOf c l = true) n name

theorem afterName?_eq_some_iff {name : List Char} :
    afterName? name s = some r ↔ ∃ n, IsSpelling n name ∧ s = n ++ r := by
  constructor
  · intro h
    fun_induction afterName? name s with
    | case1 s =>
      obtain rfl : s = r := Option.some.inj h
      exact ⟨[], .nil, rfl⟩
    | case2 => cases h
    | case3 l name c s hc ih =>
      obtain ⟨n, hn, rfl⟩ := ih h
      exact ⟨c :: n, .cons hc hn, rfl⟩
    | case4 => cases h
  · rintro ⟨n, hn, rfl⟩
    induction hn with
    | nil => rfl
    | cons hc _ ih => rw [List.cons_append, afterName?, if_pos hc, ih]

/-- A name in capital and small letters spells it. -/
theorem isSpelling_of_map_toLower {name : List Char} (h : n.map Char.toLower = name) :
    IsSpelling n name := by
  subst h
  rw [IsSpelling, List.forall₂_map_right_iff, List.forall₂_same]
  intro c _
  simp [isFormOf]

/-- The small letter of which a character is a form, if it is one. -/
def smallLetter (c : Char) : Char :=
  if c = '\u017F' then 's' else c.toLower

/-- All forms of a small letter have it as their small letter, the long s among them. -/
theorem smallLetter_of_isFormOf {l : Char} (hl : smallLetter l = l) (h : isFormOf c l = true) :
    smallLetter c = l := by
  simp only [isFormOf, Bool.or_eq_true, Bool.and_eq_true, decide_eq_true_iff] at h
  rcases h with (rfl | hlower) | ⟨rfl, rfl⟩
  · exact hl
  · rw [smallLetter]
    split
    next hc =>
      subst hc
      exact absurd (hlower ▸ hl) (by decide)
    next => exact hlower
  · decide

theorem IsSpelling.map_smallLetter_of_forall {name : List Char}
    (hname : ∀ l ∈ name, smallLetter l = l) (h : IsSpelling n name) :
    n.map smallLetter = name := by
  induction h with
  | nil => rfl
  | cons hc _ ih =>
    rw [List.map_cons, smallLetter_of_isFormOf (hname _ List.mem_cons_self) hc,
      ih fun l hl ↦ hname l (List.mem_cons_of_mem _ hl)]

/-- The characters that spell the name of an element determine it. -/
theorem IsSpelling.map_smallLetter (h : IsSpelling n e.name) : n.map smallLetter = e.name := by
  have hall : (e.name.all fun l ↦ smallLetter l = l) = true := by cases e <;> decide
  exact h.map_smallLetter_of_forall fun l hl ↦ of_decide_eq_true (List.all_eq_true.1 hall l hl)

/-- A spelling has only forms of the letters of the name. -/
theorem IsSpelling.not_mem (h : IsSpelling n e.name) (hc : smallLetter c ∉ e.name) : c ∉ n := by
  intro hmem
  rw [← h.map_smallLetter] at hc
  exact hc (List.mem_map_of_mem hmem)

/-- A text that in small letters does not have the name has no spelling of it. -/
theorem IsSpelling.not_isInfix (h : IsSpelling n e.name)
    (hs : ¬ u.map smallLetter ++ e.name <:+: s.map smallLetter) : ¬ u ++ n <:+: s := by
  intro hin
  rw [← h.map_smallLetter, ← List.map_append] at hs
  exact hs (hin.map smallLetter)

theorem IsSpelling.bracket_not_mem (h : IsSpelling n e.name) : '<' ∉ n :=
  h.not_mem (by cases e <;> decide)

/-- No two names of elements begin one text. -/
theorem IsSpelling.unique (h : IsSpelling n e.name) (h' : IsSpelling n' e'.name)
    (heq : n ++ s = n' ++ t) : e = e' := by
  have hmap : e.name ++ s.map smallLetter = e'.name ++ t.map smallLetter := by
    rw [← h.map_smallLetter, ← h'.map_smallLetter, ← List.map_append, ← List.map_append, heq]
  cases e <;> cases e' <;> simp [HiddenElement.name] at hmap ⊢

/-! ### Opening tags -/

/-- The text does not begin with a word character. -/
def EndsWord (s : List Char) : Prop :=
  ∀ c ∈ s.head?, isWordChar c = false

namespace HiddenElement

/-- The text begins with `<` and a spelling of the element's name, and no word character continues
the name. -/
def Opens (e : HiddenElement) (s : List Char) : Prop :=
  ∃ n m, IsSpelling n e.name ∧ EndsWord m ∧ s = '<' :: (n ++ m)

/-- **No text opens two elements.** -/
theorem Opens.unique (h : e.Opens s) (h' : e'.Opens s) : e = e' := by
  obtain ⟨n, m, hn, -, rfl⟩ := h
  obtain ⟨n', m', hn', -, heq⟩ := h'
  exact hn.unique hn' (List.cons.inj heq).2

end HiddenElement

/-- Behind the name, an opening tag ends at the first `>`, whatever attributes there are. -/
theorem afterOpening?_of_isSpelling (hn : IsSpelling n e.name) (hm : EndsWord m) :
    afterOpening? e ('<' :: (n ++ m)) = afterBracket? m := by
  have hname : afterName? e.name (n ++ m) = some m := afterName?_eq_some_iff.2 ⟨n, hn, rfl⟩
  rw [afterOpening?, hname, Option.bind_eq_bind, Option.bind_some, if_neg]
  cases hhead : m.head? with
  | none => simp
  | some c => simp [hm c hhead]

/-- Where an opening tag was found, one stands. -/
theorem exists_of_afterOpening? (h : afterOpening? e s = some r) :
    ∃ n m, IsSpelling n e.name ∧ EndsWord m ∧ s = '<' :: (n ++ m) ∧ afterBracket? m = some r := by
  unfold afterOpening? at h
  split at h
  next s =>
    obtain ⟨m, hm, hrest⟩ := Option.bind_eq_some_iff.1 h
    obtain ⟨n, hn, rfl⟩ := afterName?_eq_some_iff.1 hm
    split at hrest
    next => cases hrest
    next hword =>
      refine ⟨n, m, hn, fun c hc ↦ ?_, rfl, hrest⟩
      rw [Option.mem_def.1 hc] at hword
      simpa using hword
  next => cases h

/-- Where the element is not opened, none is found, even if the text begins with its name. -/
theorem afterOpening?_eq_none (h : ¬ e.Opens s) : afterOpening? e s = none := by
  cases hs : afterOpening? e s with
  | none => rfl
  | some r =>
    obtain ⟨n, m, hn, hm, heq, -⟩ := exists_of_afterOpening? hs
    exact absurd ⟨n, m, hn, hm, heq⟩ h

/-! ### Closing tags -/

/-- The text is a closing tag of the element: its name between `</` and `>`, with blanks behind the
name and nothing else. -/
def HiddenElement.IsClosingTag (e : HiddenElement) (t : List Char) : Prop :=
  ∃ n blanks, IsSpelling n e.name ∧ (∀ c ∈ blanks, isBlank c = true) ∧
    t = '<' :: '/' :: (n ++ (blanks ++ ['>']))

/-- A closing tag has its only `<` in front. -/
theorem HiddenElement.IsClosingTag.exists_eq (h : e.IsClosingTag t) :
    ∃ w, '<' ∉ w ∧ t = '<' :: (w ++ ['>']) := by
  obtain ⟨n, blanks, hn, hblanks, rfl⟩ := h
  refine ⟨'/' :: (n ++ blanks), ?_, by simp⟩
  have hmem : '<' ∉ blanks := fun hmem ↦ absurd (hblanks _ hmem) (by decide)
  simp [hn.bracket_not_mem, hmem]

/-- A closing tag is found only where the text begins with it, however its name is spelled. -/
theorem afterClosing?_eq_some_iff :
    afterClosing? e s = some r ↔ ∃ t, e.IsClosingTag t ∧ s = t ++ r := by
  constructor
  · intro h
    unfold afterClosing? at h
    split at h
    next s =>
      obtain ⟨m, hm, hrest⟩ := Option.bind_eq_some_iff.1 h
      obtain ⟨n, hn, rfl⟩ := afterName?_eq_some_iff.1 hm
      split at hrest
      next r' hr' =>
        obtain rfl : r' = r := Option.some.inj hrest
        refine ⟨_, ⟨n, m.takeWhile isBlank, hn, fun c hc ↦ List.mem_takeWhile_imp hc, rfl⟩, ?_⟩
        have hsplit : m.takeWhile isBlank ++ '>' :: r' = m := by
          rw [← hr', List.takeWhile_append_dropWhile]
        simp [hsplit]
      next => cases hrest
    next => cases h
  · rintro ⟨t, ⟨n, blanks, hn, hblanks, rfl⟩, rfl⟩
    have hname : afterName? e.name (n ++ (blanks ++ '>' :: r)) = some (blanks ++ '>' :: r) :=
      afterName?_eq_some_iff.2 ⟨n, hn, rfl⟩
    have hdrop : (blanks ++ '>' :: r).dropWhile isBlank = '>' :: r := by
      rw [List.dropWhile_append_of_pos hblanks, List.dropWhile_cons_of_neg (by decide)]
    simp [afterClosing?, hname, hdrop]

/-- **No closing tag begins before a `<` and ends behind it.** -/
theorem afterClosing?_append_cons (hu : u ≠ []) (s : List Char) :
    afterClosing? e (u ++ '<' :: s) = (afterClosing? e u).map (· ++ '<' :: s) := by
  ext r
  rw [Option.map_eq_some_iff]
  simp only [afterClosing?_eq_some_iff]
  constructor
  · rintro ⟨t, ht, heq⟩
    rcases List.append_eq_append_iff.1 heq with ⟨v, rfl, hv⟩ | ⟨v, rfl, hv⟩
    · -- a tag that reached over the `<` would have a second one
      cases v with
      | nil => exact ⟨[], ⟨u, List.append_nil u ▸ ht, (List.append_nil u).symm⟩, hv⟩
      | cons c v =>
        obtain ⟨rfl, -⟩ := List.cons.inj hv
        obtain ⟨w, hw, ht⟩ := ht.exists_eq
        obtain ⟨d, u, rfl⟩ := List.exists_cons_of_ne_nil hu
        have hmem : '<' ∈ w ++ ['>'] := by
          rw [← (List.cons.inj ht).2]
          simp
        simp [hw] at hmem
    · exact ⟨v, ⟨t, ht, rfl⟩, hv.symm⟩
  · rintro ⟨v, ⟨t, ht, rfl⟩, rfl⟩
    exact ⟨t, ht, List.append_assoc ..⟩

theorem exists_of_afterFirstClosing? (h : afterFirstClosing? e s = some r) :
    ∃ w t, e.IsClosingTag t ∧ s = w ++ (t ++ r) := by
  fun_induction afterFirstClosing? e s with
  | case1 => cases h
  | case2 c s r' hr =>
    obtain ⟨t, ht, heq⟩ := afterClosing?_eq_some_iff.1 hr
    obtain rfl : r' = r := Option.some.inj h
    exact ⟨[], t, ht, heq⟩
  | case3 c s _ ih =>
    obtain ⟨w, t, ht, rfl⟩ := ih h
    exact ⟨c :: w, t, ht, rfl⟩

/-- The search finds nothing exactly if there is no closing tag. -/
theorem afterFirstClosing?_eq_none_iff :
    afterFirstClosing? e s = none ↔ ∀ t, e.IsClosingTag t → ¬ t <:+: s := by
  constructor
  · intro h
    fun_induction afterFirstClosing? e s with
    | case1 =>
      intro t ht hin
      obtain ⟨w, -, rfl⟩ := ht.exists_eq
      cases List.infix_nil.1 hin
    | case2 => cases h
    | case3 c s hc ih =>
      intro t ht hin
      rcases List.infix_cons_iff.1 hin with ⟨r, hr⟩ | hin
      · have hsome := afterClosing?_eq_some_iff.2 ⟨t, ht, hr.symm⟩
        rw [hc] at hsome
        cases hsome
      · exact ih h t ht hin
  · intro h
    cases hs : afterFirstClosing? e s with
    | none => rfl
    | some r =>
      obtain ⟨w, t, ht, rfl⟩ := exists_of_afterFirstClosing? hs
      exact absurd ⟨w, r, List.append_assoc ..⟩ (h t ht)

/-- **Where a text goes on with a `<`, the search starts anew.** -/
theorem afterFirstClosing?_append_cons (e : HiddenElement) (u s : List Char) :
    afterFirstClosing? e (u ++ '<' :: s) =
      ((afterFirstClosing? e u).map (· ++ '<' :: s)).or (afterFirstClosing? e ('<' :: s)) := by
  induction u with
  | nil => rfl
  | cons c u ih =>
    have hstep := afterClosing?_append_cons (e := e) (List.cons_ne_nil c u) s
    rw [List.cons_append] at hstep ⊢
    rw [afterFirstClosing?, hstep, afterFirstClosing?]
    cases afterClosing? e (c :: u) with
    | none => exact ih
    | some r => rfl

/-- So without a closing tag in it, a text before a `<` may be left out of the search. -/
theorem afterFirstClosing?_append_cons_of_eq_none (hu : afterFirstClosing? e u = none)
    (s : List Char) : afterFirstClosing? e (u ++ '<' :: s) = afterFirstClosing? e ('<' :: s) := by
  rw [afterFirstClosing?_append_cons, hu, Option.map_none, Option.none_or]

/-! ### Regions -/

/-- **Only the element that a text opens decides what is hidden.** -/
theorem afterRegion?_of_isSpelling (hn : IsSpelling n e.name) (hm : EndsWord m) :
    afterRegion? ('<' :: (n ++ m)) = (afterBracket? m).bind (afterFirstClosing? e) := by
  have hopens : e.Opens ('<' :: (n ++ m)) := ⟨n, m, hn, hm, rfl⟩
  have hother : ∀ e', e' ≠ e → afterOpening? e' ('<' :: (n ++ m)) = none := fun e' hne ↦
    afterOpening?_eq_none fun hopens' ↦ hne (hopens'.unique hopens)
  rw [← afterOpening?_of_isSpelling hn hm, afterRegion?]
  -- of the three alternatives the two others find nothing, wherever they stand
  cases e <;> simp only [List.findSome?, hother, ne_eq, reduceCtorEq, not_false_eq_true,
    Option.bind_none] <;> split <;> simp only [*]

/-- A text that opens no element hides nothing at its beginning. -/
theorem afterRegion?_eq_none (h : ∀ e : HiddenElement, ¬ e.Opens s) : afterRegion? s = none := by
  simp [afterRegion?, afterOpening?_eq_none (h _)]

end Concordance
