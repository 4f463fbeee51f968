import Concordance.Text.Cut

/-!
# Pieces between separators

The pieces of a list hold no separators (`not_sep_of_mem_cut`), and a list without separators is its
own only piece (`cut_of_forall_not_sep`). So a text without blanks, unless it is empty, is a single
stretch between blanks, and stands as one stretch between other texts (`runs_of_forall`,
`runs_between`). Separators at either end change nothing (`runs_append_of_forall_left`,
`runs_append_of_forall_right`).

Where the separators of one division are among those of another, the finer division divides the
stretches of the coarser one (`runs_eq_flatMap_runs`). A line break ends a line whatever comes after
it (`lines_append_cons`), so lines that were written one after the other are read as they were
written (`lines_flatMap`).
-/

namespace Concordance

variable {α : Type}

section Cut

variable {sep : α → Bool}

theorem cut_of_forall_not_sep {l : List α} (h : ∀ a ∈ l, sep a = false) : cut sep l = [l] := by
  induction l with
  | nil => rfl
  | cons a l ih =>
    rw [cut_cons_of_not_sep (h a List.mem_cons_self),
      ih fun b hb ↦ h b (List.mem_cons_of_mem _ hb)]
    rfl

/-- What has no separators is put before the first piece. -/
theorem cut_append_of_forall_not_sep {l : List α} (h : ∀ a ∈ l, sep a = false) (m : List α) :
    cut sep (l ++ m) = (cut sep m).modifyHead (l ++ ·) := by
  induction l with
  | nil => cases h : cut sep m <;> simp [h]
  | cons a l ih =>
    rw [List.cons_append, cut_cons_of_not_sep (h a List.mem_cons_self),
      ih fun b hb ↦ h b (List.mem_cons_of_mem _ hb)]
    cases cut sep m <;> rfl

/-- What has no separators is put behind the last piece. -/
theorem exists_cut_append_of_forall_not_sep {s : List α} (h : ∀ a ∈ s, sep a = false)
    (l : List α) : ∃ rs r, cut sep (l ++ s) = rs ++ [r ++ s] := by
  induction l with
  | nil => exact ⟨[], [], cut_of_forall_not_sep h⟩
  | cons a l ih =>
    obtain ⟨rs, r, hrs⟩ := ih
    rcases ha : sep a with - | -
    · rw [List.cons_append, cut_cons_of_not_sep ha, hrs]
      rcases rs with - | ⟨q, rs⟩
      · exact ⟨[], a :: r, rfl⟩
      · exact ⟨(a :: q) :: rs, r, rfl⟩
    · rw [List.cons_append, cut_cons_of_sep ha, hrs]
      exact ⟨[] :: rs, r, rfl⟩

/-- The pieces between separators hold none. -/
theorem not_sep_of_mem_cut {l r : List α} (hr : r ∈ cut sep l) {a : α} (ha : a ∈ r) :
    sep a = false := by
  induction l generalizing r with
  | nil =>
    obtain rfl : r = [] := by simpa using hr
    exact absurd ha List.not_mem_nil
  | cons b l ih =>
    by_cases hb : sep b = true
    · rw [cut_cons_of_sep hb] at hr
      rcases List.mem_cons.1 hr with rfl | hr
      · exact absurd ha List.not_mem_nil
      · exact ih hr ha
    · rw [cut_cons_of_not_sep (by simpa using hb)] at hr
      cases hl : cut sep l with
      | nil => exact absurd hl (cut_ne_nil sep l)
      | cons s rs =>
        rw [hl] at hr ih
        rcases List.mem_cons.1 hr with rfl | hr
        · rcases List.mem_cons.1 ha with rfl | ha
          · simpa using hb
          · exact ih List.mem_cons_self ha
        · exact ih (List.mem_cons_of_mem _ hr) ha

/-- Each piece ended by the separator, the pieces make up the list, ended by the separator. -/
theorem flatMap_cut [DecidableEq α] (a : α) (l : List α) :
    (cut (· = a) l).flatMap (· ++ [a]) = l ++ [a] := by
  induction l with
  | nil => rfl
  | cons b l ih =>
    by_cases hb : b = a
    · have hcut : cut (· = a) (b :: l) = [] :: cut (· = a) l :=
        cut_cons_of_sep (by simpa using hb) l
      rw [hcut, List.flatMap_cons, ih, hb]
      rfl
    · have hcut : cut (· = a) (b :: l) = (cut (· = a) l).modifyHead (b :: ·) :=
        cut_cons_of_not_sep (by simpa using hb) l
      rw [hcut]
      cases hl : cut (· = a) l with
      | nil => exact absurd hl (cut_ne_nil _ l)
      | cons r rs =>
        rw [hl, List.flatMap_cons] at ih
        rw [List.modifyHead_cons, List.flatMap_cons, List.cons_append, List.cons_append, ih]
        rfl

/-- Nothing is lost between separators but the separators. -/
theorem flatten_cut (l : List α) : (cut sep l).flatten = l.filter fun a ↦ !sep a := by
  induction l with
  | nil => rfl
  | cons a l ih =>
    by_cases ha : sep a = true
    · simp [cut_cons_of_sep ha, ih, ha]
    · have ha : sep a = false := by simpa using ha
      rw [cut_cons_of_not_sep ha, List.filter_cons_of_pos (by simp [ha]), ← ih]
      cases hl : cut sep l with
      | nil => exact absurd hl (cut_ne_nil sep l)
      | cons r rs => rfl

end Cut

section Runs

variable {p q : α → Bool} {l : List α}

/-- A list that is not empty and has no separators is one stretch. -/
theorem runs_of_forall (h : ∀ a ∈ l, p a = true) (hl : l ≠ []) : runs p l = [l] := by
  rw [runs, cut_of_forall_not_sep fun a ha ↦ by simp [h a ha]]
  simp [hl]

/-- Between separators such a list is a stretch of its own. -/
theorem runs_between {a b : α} (ha : p a = false) (hb : p b = false) (h : ∀ c ∈ l, p c = true)
    (hl : l ≠ []) (before after : List α) :
    runs p (before ++ a :: (l ++ b :: after)) = runs p before ++ l :: runs p after := by
  rw [runs_append_cons ha, runs_append_cons hb, runs_of_forall h hl, List.singleton_append]

/-- **The stretches are made of the members without the separators**, in order. -/
theorem flatten_runs (l : List α) : (runs p l).flatten = l.filter p := by
  rw [runs, List.flatten_filter_not_isEmpty, flatten_cut]
  simp

theorem mem_of_mem_runs {r : List α} (hr : r ∈ runs p l) {a : α} (ha : a ∈ r) :
    a ∈ l ∧ p a = true := by
  have hmem : a ∈ (runs p l).flatten := List.mem_flatten_of_mem hr ha
  rw [flatten_runs] at hmem
  exact List.mem_filter.1 hmem

/-- The stretches of a list depend on its own members only. -/
theorem runs_congr (h : ∀ a ∈ l, p a = q a) : runs p l = runs q l := by
  have hcut : cut (fun a ↦ !p a) l = cut (fun a ↦ !q a) l := by
    induction l with
    | nil => rfl
    | cons a l ih =>
      rw [cut, cut, h a List.mem_cons_self, ih fun b hb ↦ h b (List.mem_cons_of_mem a hb)]
  rw [runs, runs, hcut]

/-- There is a run as soon as there is an item for one. -/
theorem runs_eq_nil_iff : runs p l = [] ↔ ∀ a ∈ l, p a = false := by
  have hflatten : runs p l = [] ↔ (runs p l).flatten = [] := by
    rw [List.flatten_eq_nil_iff]
    constructor
    · intro h r hr
      simp [h] at hr
    · intro h
      refine List.eq_nil_iff_forall_not_mem.2 fun r hr ↦ ne_nil_of_mem_runs hr (h r hr)
  rw [hflatten, flatten_runs]
  simp

/-- Separators before a list do not count. -/
theorem runs_append_of_forall_left {s : List α} (h : ∀ a ∈ s, p a = false) (l : List α) :
    runs p (s ++ l) = runs p l := by
  rcases s.eq_nil_or_concat with rfl | ⟨init, a, rfl⟩
  · rfl
  · rw [List.concat_eq_append] at h ⊢
    have hinit : runs p init = [] :=
      runs_eq_nil_iff.2 fun b hb ↦ h b (List.mem_append_left _ hb)
    rw [List.append_assoc, List.singleton_append, runs_append_cons (h a (by simp)), hinit,
      List.nil_append]

/-- Separators behind a list do not count. -/
theorem runs_append_of_forall_right {s : List α} (h : ∀ a ∈ s, p a = false) (l : List α) :
    runs p (l ++ s) = runs p l := by
  rcases s with - | ⟨a, s⟩
  · rw [List.append_nil]
  · have hrest : runs p s = [] :=
      runs_eq_nil_iff.2 fun b hb ↦ h b (List.mem_cons_of_mem a hb)
    rw [runs_append_cons (h a List.mem_cons_self), hrest, List.append_nil]

/-- **Stretches of a coarser division are divided further.** -/
theorem runs_eq_flatMap_runs (h : ∀ a, q a = false → p a = false) (l : List α) :
    runs p l = (runs q l).flatMap (runs p) := by
  -- a list is stretched by what was passed of it since the last coarse separator
  suffices hpassed : ∀ passed : List α, (∀ a ∈ passed, q a = true) →
      runs p (passed ++ l) = (runs q (passed ++ l)).flatMap (runs p) from
    hpassed [] (by simp)
  have hpiece : ∀ r : List α, (∀ a ∈ r, q a = true) → runs p r = (runs q r).flatMap (runs p) := by
    intro r hr
    cases r with
    | nil => rfl
    | cons a r => rw [runs_of_forall hr (by simp), List.flatMap_singleton]
  induction l with
  | nil =>
    intro passed hpassed
    rw [List.append_nil]
    exact hpiece passed hpassed
  | cons a l ih =>
    intro passed hpassed
    by_cases ha : q a = true
    · have hsnoc := ih (passed ++ [a]) fun b hb ↦ by
        rcases List.mem_append.1 hb with hb | hb
        · exact hpassed b hb
        · rwa [List.mem_singleton.1 hb]
      rwa [List.append_assoc] at hsnoc
    · have ha : q a = false := by simpa using ha
      have hrest : runs p l = (runs q l).flatMap (runs p) := ih [] (by simp)
      rw [runs_append_cons (h a ha), runs_append_cons ha, List.flatMap_append,
        ← hpiece passed hpassed, ← hrest]

end Runs

section Lines

variable {isBreak : α → Bool} {a : α}

theorem lines_nil : lines isBreak [] = [] := rfl

theorem mem_cut_of_mem_lines {l r : List α} (h : r ∈ lines isBreak l) : r ∈ cut isBreak l := by
  rw [lines] at h
  split at h
  · exact List.dropLast_subset _ h
  · exact h

/-- Of the pieces between line breaks, only an empty one may be no line. -/
theorem mem_lines_of_mem_cut {l r : List α} (h : r ∈ cut isBreak l) (hr : r ≠ []) :
    r ∈ lines isBreak l := by
  rw [lines]
  split
  next hlast =>
    obtain ⟨rs, hrs⟩ := List.getLast?_eq_some_iff.1 hlast
    rw [hrs, List.dropLast_concat]
    rw [hrs] at h
    exact (List.mem_append.1 h).resolve_right fun hmem ↦ hr (List.mem_singleton.1 hmem)
  next => exact h

/-- **A line break between two lists ends a line there**, the last of the first list. -/
theorem lines_append_cons (h : isBreak a = true) (l m : List α) :
    lines isBreak (l ++ a :: m) = cut isBreak l ++ lines isBreak m := by
  have hlast : (cut isBreak l ++ cut isBreak m).getLast? = (cut isBreak m).getLast? := by
    rw [List.getLast?_append, Option.or_of_isSome (by simpa using cut_ne_nil isBreak m)]
  rw [lines, lines, cut_append_cons h, hlast]
  split
  · exact List.dropLast_append_of_ne_nil (cut_ne_nil isBreak m)
  · rfl

theorem lines_cons_of_isBreak (h : isBreak a = true) (l : List α) :
    lines isBreak (a :: l) = [] :: lines isBreak l :=
  lines_append_cons h [] l

/-- What ends with a line break does not reach into the lines after it. -/
theorem lines_append (h : isBreak a = true) (l m : List α) :
    lines isBreak (l ++ [a] ++ m) = lines isBreak (l ++ [a]) ++ lines isBreak m := by
  rw [List.append_assoc, List.singleton_append, lines_append_cons h, lines_append_cons h,
    lines_nil, List.append_nil]

/-- **What was written line by line is read line by line.** -/
theorem lines_flatMap (h : isBreak a = true) {ls : List (List α)}
    (hls : ∀ l ∈ ls, ∀ b ∈ l, isBreak b = false) :
    lines isBreak (ls.flatMap (· ++ [a])) = ls := by
  induction ls with
  | nil => rfl
  | cons l ls ih =>
    rw [List.flatMap_cons, List.append_assoc, List.singleton_append, lines_append_cons h,
      cut_of_forall_not_sep (hls l List.mem_cons_self),
      ih fun m hm ↦ hls m (List.mem_cons_of_mem l hm), List.singleton_append]

end Lines

end Concordance
