import Mathlib.Data.List.SplitBy
import Concordance.Proofs.Terms

/-!
# Stretches of a text

A text is divided in one way into stretches that alternate between letters of an alphabet and other
characters (`existsUnique_areStretches`). The stretches of letters are, each at its place, the runs
of letters that cannot be made longer at either end (`AreStretches.isMaximalRun_iff`), and in lower
case they are the terms of the text, in order and with repetitions (`AreStretches.runs_eq_filter`).

The division is that of a list at the places where neighbours differ in kind, `List.splitBy`. What
is added is its description by the stretches themselves (`areStretches_iff`), so that they are
unique as the value of a function is.
-/

namespace Concordance

variable {α : Type} {p : α → Bool} {l : List α} {s : List α} {ss : List (List α)}

/-- The stretches of a list, which alternate between members that satisfy `p` and members that do
not. -/
structure AreStretches (p : α → Bool) (l : List α) (ss : List (List α)) : Prop where
  /-- The stretches make up the list. -/
  flatten_eq : ss.flatten = l
  /-- No stretch is empty. -/
  ne_nil : ∀ s ∈ ss, s ≠ []
  /-- The members of a stretch are of one kind. -/
  uniform : ∀ s ∈ ss, (∀ a ∈ s, p a = true) ∨ ∀ a ∈ s, p a = false
  /-- Where two stretches meet, the members are of different kinds. -/
  differ : ss.IsChain fun s t ↦ ∀ a ∈ s.getLast?, ∀ b ∈ t.head?, p a ≠ p b

/-- A stretch of a list, between what stands before it and what stands behind it, whose members all
satisfy `p` and which cannot be made longer. -/
structure IsMaximalRun (p : α → Bool) (before run after : List α) : Prop where
  /-- The stretch is not empty. -/
  ne_nil : run ≠ []
  /-- Its members satisfy `p`. -/
  forall_mem : ∀ a ∈ run, p a = true
  /-- It cannot be made longer to the left. -/
  left : ∀ a ∈ before.getLast?, p a = false
  /-- It cannot be made longer to the right. -/
  right : ∀ a ∈ after.head?, p a = false

/-! ### The division at differing neighbours -/

/-- Members of which neighbours are of one kind are all of one kind. -/
theorem uniform_iff_isChain :
    ((∀ a ∈ s, p a = true) ∨ ∀ a ∈ s, p a = false) ↔ s.IsChain fun a b ↦ (p a == p b) = true := by
  constructor
  · intro h
    refine (List.pairwise_of_forall_mem_list fun a ha b hb ↦ ?_).isChain
    rcases h with h | h <;> rw [h a ha, h b hb] <;> rfl
  · intro h
    induction s with
    | nil => simp
    | cons a s ih =>
      obtain ⟨hhead, htail⟩ := List.isChain_cons.1 h
      rcases s with - | ⟨b, s⟩
      · cases p a <;> simp
      · have hab : p a = p b := by simpa using hhead b rfl
        simp only [List.forall_mem_cons] at ih ⊢
        rw [hab]
        exact (ih htail).imp (fun hall ↦ ⟨hall.1, hall⟩) fun hall ↦ ⟨hall.1, hall⟩

/-- **A list is divided into its stretches where neighbours differ in kind.** -/
theorem areStretches_iff :
    AreStretches p l ss ↔ l.splitBy (fun a b ↦ p a == p b) = ss := by
  have hdiffer (hne : ∀ s ∈ ss, s ≠ []) :
      (ss.IsChain fun s t ↦ ∀ a ∈ s.getLast?, ∀ b ∈ t.head?, p a ≠ p b) ↔
        ss.IsChain fun s t ↦ ∃ hs ht, (p (s.getLast hs) == p (t.head ht)) = false := by
    refine List.IsChain.iff_of_mem_imp fun s t hs ht ↦ ?_
    simp [List.getLast?_eq_some_getLast (hne s hs), List.head?_eq_some_head (hne t ht), hne s hs,
      hne t ht]
  rw [List.splitBy_eq_iff]
  constructor
  · rintro ⟨hflatten, hne, huniform, hchain⟩
    exact ⟨hflatten.symm, fun hnil ↦ hne [] hnil rfl,
      fun s hs ↦ uniform_iff_isChain.1 (huniform s hs), (hdiffer hne).1 hchain⟩
  · rintro ⟨hflatten, hnil, huniform, hchain⟩
    have hne : ∀ s ∈ ss, s ≠ [] := fun s hs heq ↦ hnil (heq ▸ hs)
    exact ⟨hflatten.symm, hne, fun s hs ↦ uniform_iff_isChain.2 (huniform s hs),
      (hdiffer hne).2 hchain⟩

/-- **Every list has stretches, and only one division into them.** -/
theorem existsUnique_areStretches (p : α → Bool) (l : List α) : ∃! ss, AreStretches p l ss :=
  ⟨_, areStretches_iff.2 rfl, fun _ h ↦ (areStretches_iff.1 h).symm⟩

/-! ### Maximal runs -/

theorem getLast?_flatten_concat (hs : s ≠ []) (ss : List (List α)) :
    (ss ++ [s]).flatten.getLast? = s.getLast? := by
  rw [List.flatten_append, List.flatten_singleton, List.getLast?_append_of_ne_nil _ hs]

theorem head?_flatten_cons (hs : s ≠ []) (ss : List (List α)) :
    (s :: ss).flatten.head? = s.head? := by
  rw [List.flatten_cons, List.head?_append_of_ne_nil _ hs]

/-- What cannot be made longer to the right is a run of its own. -/
theorem runs_append_of_forall {t : List α} (hs : ∀ a ∈ s, p a = true) (hne : s ≠ [])
    (ht : ∀ a ∈ t.head?, p a = false) : runs p (s ++ t) = s :: runs p t := by
  rcases t with - | ⟨a, t⟩
  · rw [List.append_nil, runs_of_forall hs hne]
    rfl
  · have ha : p a = false := ht a rfl
    rw [runs_append_cons ha, runs_of_forall hs hne]
    exact congrArg (s :: ·) (runs_append_cons ha [] t).symm

namespace AreStretches

variable {ss₁ ss₂ : List (List α)}

theorem of_append (h : AreStretches p l (ss₁ ++ ss₂)) : AreStretches p ss₂.flatten ss₂ where
  flatten_eq := rfl
  ne_nil := (List.forall_mem_append.1 h.ne_nil).2
  uniform := (List.forall_mem_append.1 h.uniform).2
  differ := h.differ.right_of_append

/-- Where two parts of a division meet, the members are of different kinds. -/
theorem differ_of_append (h : AreStretches p l (ss₁ ++ ss₂)) :
    ∀ a ∈ ss₁.flatten.getLast?, ∀ b ∈ ss₂.flatten.head?, p a ≠ p b := by
  rcases ss₁.eq_nil_or_concat' with rfl | ⟨ss₁, s, rfl⟩
  · simp
  rcases ss₂ with - | ⟨t, ss₂⟩
  · simp
  rw [getLast?_flatten_concat (h.ne_nil s (by simp)), head?_flatten_cons (h.ne_nil t (by simp))]
  exact (List.isChain_append.1 h.differ).2.2 s (by simp) t rfl

/-- **The runs of a list are the stretches that satisfy `p`.** -/
theorem runs_eq_filter (h : AreStretches p l ss) : runs p l = ss.filter fun s ↦ s.all p := by
  obtain rfl := h.flatten_eq
  induction ss with
  | nil => rfl
  | cons s ss ih =>
    have hsplit : AreStretches p (s :: ss).flatten ([s] ++ ss) := h
    have hrest : runs p ss.flatten = ss.filter fun s ↦ s.all p := ih hsplit.of_append
    have hne : s ≠ [] := h.ne_nil s List.mem_cons_self
    have hmem : s.getLast hne ∈ s := List.getLast_mem hne
    rw [List.flatten_cons]
    rcases h.uniform s List.mem_cons_self with hall | hnone
    · have hend : ∀ b ∈ ss.flatten.head?, p b = false := fun b hb ↦ by
        have hdiffer := hsplit.differ_of_append (s.getLast hne) (by
          simpa using List.getLast?_eq_some_getLast hne) b hb
        simpa [hall _ hmem] using hdiffer.symm
      rw [runs_append_of_forall hall hne hend, hrest, List.filter_cons,
        if_pos (List.all_eq_true.2 hall)]
    · have hskip : ¬ s.all p = true := fun hall ↦
        Bool.false_ne_true ((hnone _ hmem).symm.trans (List.all_eq_true.1 hall _ hmem))
      rw [runs_append_of_forall_left hnone, hrest, List.filter_cons, if_neg hskip]

/-- **The stretches that satisfy `p` are the maximal runs**, each at its place. -/
theorem isMaximalRun_iff (h : AreStretches p l ss) {before run after : List α} :
    (l = before ++ run ++ after ∧ IsMaximalRun p before run after) ↔
      ∃ ss₁ ss₂, ss = ss₁ ++ run :: ss₂ ∧ before = ss₁.flatten ∧ after = ss₂.flatten ∧
        ∀ a ∈ run, p a = true := by
  constructor
  · rintro ⟨rfl, hne, hall, hleft, hright⟩
    -- the three parts are divided one by one, since the kinds differ where they meet
    have hrun : run.splitBy (fun a b ↦ p a == p b) = [run] :=
      List.splitBy_of_isChain hne (uniform_iff_isChain.1 (.inl hall))
    refine ⟨before.splitBy fun a b ↦ p a == p b, after.splitBy fun a b ↦ p a == p b, ?_,
      (List.flatten_splitBy _ _).symm, (List.flatten_splitBy _ _).symm, hall⟩
    rw [← areStretches_iff.1 h, List.splitBy_append, List.splitBy_append, hrun]
    · simp
    · intro a ha b hb
      simp [hleft a ha, hall b (List.mem_of_mem_head? hb)]
    · intro a ha b hb
      rw [List.getLast?_append_of_ne_nil _ hne] at ha
      simp [hall a (List.mem_of_getLast? ha), hright b hb]
  · rintro ⟨ss₁, ss₂, rfl, rfl, rfl, hall⟩
    have hne : run ≠ [] := h.ne_nil run (by simp)
    refine ⟨by rw [← h.flatten_eq]; simp, hne, hall, fun a ha ↦ ?_, fun b hb ↦ ?_⟩
    · have hhead : run.head hne ∈ (run :: ss₂).flatten.head? := by
        rw [head?_flatten_cons hne]
        exact List.head?_eq_some_head hne
      simpa [hall _ (List.head_mem hne)] using h.differ_of_append a ha _ hhead
    · have hlast : run.getLast hne ∈ (ss₁ ++ [run]).flatten.getLast? := by
        rw [getLast?_flatten_concat hne]
        exact List.getLast?_eq_some_getLast hne
      have hsplit : AreStretches p l ((ss₁ ++ [run]) ++ ss₂) := by simpa using h
      simpa [hall _ (List.getLast_mem hne)] using (hsplit.differ_of_append _ hlast b hb).symm

end AreStretches

/-! ### Terms -/

namespace Alphabet

/-- **The terms of a text are its maximal runs of letters in lower case**, in order and with
repetitions. A text is divided in one way into stretches that alternate between letters and other
characters. The stretches of letters are, each at its place, the runs of letters that cannot be made
longer, and in lower case they are the terms, none of which is empty. So a character that is no
letter, wherever it stands, separates the terms on its two sides. -/
theorem terms_are_maximal_runs (a : Alphabet) (text : String) :
    (∃! ss, AreStretches a.isLetter text.toList ss) ∧
    (∀ ss, AreStretches a.isLetter text.toList ss →
      a.terms text =
        (ss.filter fun s ↦ s.all a.isLetter).map (fun s ↦ String.ofList (lower s)) ∧
      ∀ before run after,
        (text.toList = before ++ run ++ after ∧ IsMaximalRun a.isLetter before run after) ↔
          ∃ ss₁ ss₂, ss = ss₁ ++ run :: ss₂ ∧ before = ss₁.flatten ∧ after = ss₂.flatten ∧
            ∀ c ∈ run, a.isLetter c = true) ∧
    "" ∉ a.terms text ∧
    ∀ (left right : String) (c : Char), a.isLetter c = false →
      a.terms (left ++ String.singleton c ++ right) = a.terms left ++ a.terms right := by
  refine ⟨existsUnique_areStretches _ _, fun ss h ↦ ⟨?_, fun _ _ _ ↦ h.isMaximalRun_iff⟩, ?_, ?_⟩
  · rw [terms, termsOf, h.runs_eq_filter, List.map_map]
    rfl
  · intro hmem
    obtain ⟨t, ht, hempty⟩ := List.mem_map.1 hmem
    obtain ⟨r, hr, rfl⟩ := List.mem_map.1 ht
    exact lower_ne_nil (ne_nil_of_mem_runs hr) (String.ofList_eq_empty_iff.1 hempty)
  · intro left right c hc
    have htext : (left ++ String.singleton c ++ right).toList =
        left.toList ++ c :: right.toList := by simp
    rw [terms, htext, termsOf_append_cons hc, List.map_append]
    rfl

/-- Terms on the two sides of a hyphen, and digits that belong to none. -/
theorem terms_are_maximal_runs_of_hyphenated :
    AreStretches Alphabet.cyrillic.isLetter "42 Ёж-ЁЛКА ёж".toList
        ["42 ".toList, "Ёж".toList, "-".toList, "ЁЛКА".toList, " ".toList, "ёж".toList] ∧
      Alphabet.cyrillic.terms "42 Ёж-ЁЛКА ёж" = ["ёж", "ёлка", "ёж"] ∧
      Alphabet.cyrillic.isLetter '-' = false ∧
      Alphabet.cyrillic.terms ("42 Ёж" ++ String.singleton '-' ++ "ЁЛКА ёж") =
        Alphabet.cyrillic.terms "42 Ёж" ++ Alphabet.cyrillic.terms "ЁЛКА ёж" := by
  have hdivided : AreStretches Alphabet.cyrillic.isLetter "42 Ёж-ЁЛКА ёж".toList
      ["42 ".toList, "Ёж".toList, "-".toList, "ЁЛКА".toList, " ".toList, "ёж".toList] :=
    areStretches_iff.2 (by decide +kernel)
  have hhyphen : Alphabet.cyrillic.isLetter '-' = false := by decide +kernel
  obtain ⟨-, hruns, -, hseparates⟩ := terms_are_maximal_runs .cyrillic "42 Ёж-ЁЛКА ёж"
  refine ⟨hdivided, ?_, hhyphen, hseparates _ _ _ hhyphen⟩
  rw [(hruns _ hdivided).1]
  decide +kernel

end Alphabet

end Concordance
