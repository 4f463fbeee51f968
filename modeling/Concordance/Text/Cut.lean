/-!
# Cutting a list at separators

`cut` divides a list at every separator; the pieces and the separators between them make up the
list again, so there is always one piece more than there are separators. `runs` keeps the pieces
that are not empty: these are the maximal stretches without a separator. `lines` drops a last piece
that is empty, because a line break ends a line and does not begin one.

Everything is structural, and the one law behind the rest is `cut_append_cons`: a separator between
two lists cuts there and nowhere else.
-/

namespace Concordance

variable {α : Type}

/-- The pieces of a list between its separators. -/
def cut (sep : α → Bool) : List α → List (List α)
  | [] => [[]]
  | a :: l => if sep a then [] :: cut sep l else (cut sep l).modifyHead (a :: ·)

/-- The maximal stretches of a list whose members all satisfy `p`. -/
def runs (p : α → Bool) (l : List α) : List (List α) :=
  (cut (fun a ↦ !p a) l).filter fun r ↦ !r.isEmpty

/-- The lines of a list: its pieces between line breaks, without a last piece that is empty. -/
def lines (isBreak : α → Bool) (l : List α) : List (List α) :=
  match (cut isBreak l).getLast? with
  | some [] => (cut isBreak l).dropLast
  | _ => cut isBreak l

/-! ### Laws -/

@[simp] theorem cut_nil (sep : α → Bool) : cut sep [] = [[]] := rfl

theorem cut_cons_of_sep {sep : α → Bool} {a : α} (h : sep a = true) (l : List α) :
    cut sep (a :: l) = [] :: cut sep l := by
  simp [cut, h]

theorem cut_cons_of_not_sep {sep : α → Bool} {a : α} (h : sep a = false) (l : List α) :
    cut sep (a :: l) = (cut sep l).modifyHead (a :: ·) := by
  simp [cut, h]

theorem cut_ne_nil (sep : α → Bool) (l : List α) : cut sep l ≠ [] := by
  induction l with
  | nil => simp
  | cons a l ih =>
    unfold cut
    split
    · simp
    · cases h : cut sep l with
      | nil => exact absurd h ih
      | cons r rs => simp

/-- **A separator between two lists cuts there and nowhere else.** -/
theorem cut_append_cons {sep : α → Bool} {a : α} (h : sep a = true) (l m : List α) :
    cut sep (l ++ a :: m) = cut sep l ++ cut sep m := by
  induction l with
  | nil => simp [cut, h]
  | cons b l ih =>
    by_cases hb : sep b = true
    · simp [cut_cons_of_sep hb, ih]
    · have hb : sep b = false := by simpa using hb
      rw [List.cons_append, cut_cons_of_not_sep hb, cut_cons_of_not_sep hb, ih]
      cases hl : cut sep l with
      | nil => exact absurd hl (cut_ne_nil sep l)
      | cons r rs => simp

/-- **Runs never reach over an item that is not one of theirs.** -/
theorem runs_append_cons {p : α → Bool} {a : α} (h : p a = false) (l m : List α) :
    runs p (l ++ a :: m) = runs p l ++ runs p m := by
  simp [runs, @cut_append_cons α (fun a ↦ !p a) a (by simp [h])]

/-- No run is empty, as empty pieces are left out. -/
theorem ne_nil_of_mem_runs {p : α → Bool} {l r : List α} (h : r ∈ runs p l) : r ≠ [] := by
  rintro rfl
  simp [runs] at h

end Concordance
