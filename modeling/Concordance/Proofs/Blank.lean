import Mathlib.Data.List.TakeWhile
import Concordance.Proofs.Cut
import Concordance.Text.Blank

/-!
# Blanks at the ends of a text, and the first blank in it

Blanks before a text do not count (`trim_append`), and a text that begins and ends with other
characters is left as it is (`trim_eq_self`), as is one that was trimmed before (`trim_trim`). What
is trimmed off is blanks and nothing else, so a text has the pieces it had before
(`blankFreePieces_trim`). The first blank divides a text (`splitAtBlank?_eq_some_iff`); there is
none exactly if no character is a blank.
-/

namespace Concordance

variable {b l m : List Char} {c : Char}

theorem ne_newline (h : isBlank c = false) : c ≠ '\n' := by
  rintro rfl
  exact absurd h (by decide)

theorem trim_append (hb : ∀ c ∈ b, isBlank c = true) (l : List Char) : trim (b ++ l) = trim l := by
  rw [trim, trim, List.dropWhile_append_of_pos hb]

/-- Nothing but blanks is trimmed off. -/
theorem exists_eq_append_trim (l : List Char) :
    ∃ before after, before ++ trim l ++ after = l ∧ (∀ c ∈ before, isBlank c = true) ∧
      ∀ c ∈ after, isBlank c = true := by
  have hrest : trim l ++ ((l.dropWhile isBlank).reverse.takeWhile isBlank).reverse =
      l.dropWhile isBlank := by
    rw [trim, ← List.reverse_append, List.takeWhile_append_dropWhile, List.reverse_reverse]
  refine ⟨l.takeWhile isBlank, ((l.dropWhile isBlank).reverse.takeWhile isBlank).reverse, ?_,
    fun c hc ↦ List.mem_takeWhile_imp hc, fun c hc ↦ ?_⟩
  · rw [List.append_assoc, hrest, List.takeWhile_append_dropWhile]
  · exact List.mem_takeWhile_imp (List.mem_reverse.1 hc)

/-- Trimming adds nothing. -/
theorem mem_of_mem_trim (h : c ∈ trim l) : c ∈ l := by
  obtain ⟨before, after, hl, -, -⟩ := exists_eq_append_trim l
  rw [← hl]
  exact List.mem_append_left after (List.mem_append_right before h)

/-- Only a text of blanks has nothing left. -/
theorem trim_eq_nil_iff : trim l = [] ↔ ∀ c ∈ l, isBlank c = true := by
  constructor
  · intro h c hc
    rw [trim, List.reverse_eq_nil_iff, List.dropWhile_eq_nil_iff] at h
    have hsplit := List.takeWhile_append_dropWhile (p := isBlank) (l := l)
    rw [← hsplit] at hc
    rcases List.mem_append.1 hc with hc | hc
    · exact List.mem_takeWhile_imp hc
    · exact h c (List.mem_reverse.2 hc)
  · intro h
    have hdrop : l.dropWhile isBlank = [] := List.dropWhile_eq_nil_iff.2 h
    rw [trim, hdrop]
    rfl

theorem isEmpty_trim (l : List Char) : (trim l).isEmpty = l.all isBlank := by
  rw [Bool.eq_iff_iff, List.isEmpty_iff, List.all_eq_true, trim_eq_nil_iff]

private theorem not_isBlank_of_head?_dropWhile (h : c ∈ (l.dropWhile isBlank).head?) :
    isBlank c = false := by
  have hhead := List.head?_dropWhile_not isBlank l
  rwa [Option.mem_def.1 h] at hhead

/-- A trimmed text does not end with a blank. -/
theorem not_isBlank_of_getLast?_trim (h : c ∈ (trim l).getLast?) : isBlank c = false := by
  rw [trim, List.getLast?_reverse] at h
  exact not_isBlank_of_head?_dropWhile h

/-- A trimmed text does not begin with a blank. -/
theorem not_isBlank_of_head?_trim (h : c ∈ (trim l).head?) : isBlank c = false := by
  have hrest : trim l ++ ((l.dropWhile isBlank).reverse.takeWhile isBlank).reverse =
      l.dropWhile isBlank := by
    rw [trim, ← List.reverse_append, List.takeWhile_append_dropWhile, List.reverse_reverse]
  refine not_isBlank_of_head?_dropWhile (l := l) ?_
  rw [← hrest, List.head?_append, Option.mem_def.1 h]
  rfl

private theorem dropWhile_eq_self (h : ∀ c ∈ l.head?, isBlank c = false) :
    l.dropWhile isBlank = l := by
  cases l with
  | nil => rfl
  | cons c l => rw [List.dropWhile_cons_of_neg (by simp [h c rfl])]

/-- A text without blanks at its ends is left as it is. -/
theorem trim_eq_self (hhead : ∀ c ∈ l.head?, isBlank c = false)
    (hlast : ∀ c ∈ l.getLast?, isBlank c = false) : trim l = l := by
  rw [trim, dropWhile_eq_self hhead, dropWhile_eq_self (by rwa [List.head?_reverse]),
    List.reverse_reverse]

/-- Trimming twice is trimming once. -/
theorem trim_trim (l : List Char) : trim (trim l) = trim l :=
  trim_eq_self (fun _ ↦ not_isBlank_of_head?_trim) fun _ ↦ not_isBlank_of_getLast?_trim

theorem trim_of_forall (h : ∀ c ∈ l, isBlank c = false) : trim l = l :=
  trim_eq_self (fun c hc ↦ h c (List.mem_of_head? hc)) fun c hc ↦ h c (List.mem_of_getLast? hc)

/-- **Trimming leaves the pieces of a text as they are.** -/
theorem blankFreePieces_trim (l : List Char) : blankFreePieces (trim l) = blankFreePieces l := by
  obtain ⟨before, after, hl, hbefore, hafter⟩ := exists_eq_append_trim l
  calc blankFreePieces (trim l)
      = blankFreePieces (before ++ trim l) :=
        (runs_append_of_forall_left (fun c hc ↦ by simp [hbefore c hc]) _).symm
    _ = blankFreePieces (before ++ trim l ++ after) :=
        (runs_append_of_forall_right (fun c hc ↦ by simp [hafter c hc]) _).symm
    _ = blankFreePieces l := by rw [hl]

/-- **The first blank divides a text.** -/
theorem splitAtBlank?_append (hl : ∀ c ∈ l, isBlank c = false) (hc : isBlank c = true)
    (m : List Char) : splitAtBlank? (l ++ c :: m) = some (l, m) := by
  have hl' : ∀ c ∈ l, (!isBlank c) = true := fun c hc ↦ by simp [hl c hc]
  rw [splitAtBlank?, List.dropWhile_append_of_pos hl', List.takeWhile_append_of_pos hl',
    List.dropWhile_cons_of_neg (by simp [hc]), List.takeWhile_cons_of_neg (by simp [hc]),
    List.append_nil]

/-- **A text is divided at its first blank**, which belongs to neither part. -/
theorem splitAtBlank?_eq_some_iff :
    splitAtBlank? l = some (b, m) ↔
      ∃ c, l = b ++ c :: m ∧ (∀ d ∈ b, isBlank d = false) ∧ isBlank c = true := by
  constructor
  · intro h
    have hhead := List.head?_dropWhile_not (fun c ↦ !isBlank c) l
    have hsplit := List.takeWhile_append_dropWhile (p := fun c ↦ !isBlank c) (l := l)
    rw [splitAtBlank?] at h
    rcases hdrop : l.dropWhile fun c ↦ !isBlank c with - | ⟨c, rest⟩
    · rw [hdrop] at h
      exact absurd h (by simp)
    · rw [hdrop] at h hhead hsplit
      obtain ⟨rfl, rfl⟩ := Prod.mk.inj (Option.some.inj h)
      exact ⟨c, hsplit.symm, fun d hd ↦ by simpa using List.mem_takeWhile_imp hd,
        by simpa using hhead⟩
  · rintro ⟨c, rfl, hb, hc⟩
    exact splitAtBlank?_append hb hc m

theorem splitAtBlank?_eq_none_iff : splitAtBlank? l = none ↔ ∀ c ∈ l, isBlank c = false := by
  have hdrop : splitAtBlank? l = none ↔ (l.dropWhile fun c ↦ !isBlank c) = [] := by
    rw [splitAtBlank?]
    cases l.dropWhile fun c ↦ !isBlank c <;> simp
  rw [hdrop, List.dropWhile_eq_nil_iff]
  simp

end Concordance
