import Concordance.Term

/-!
# Lower case of letters

Lower case does not lead out of an alphabet, and what is lower case already stays as it is. So a
letter has one character as its lower-case form, again a letter of the alphabet, and one that is its
own lower-case form (`exists_lowerChar_eq`). The one exception is the capital I with a dot above,
whose lower-case form ends with a mark that belongs to no script.

Both facts are about the rows of capitals and not about single letters. A row moves an interval, so
it is enough to compare the two ends: the capitals of a row are no letters of an alphabet at all, or
its images lie within one range of the letters (`isApart_or_image_mem`), and the images of a row are
no capitals of any row (`clears_of_mem`).
-/

namespace Concordance

/-! ### Rows of capitals -/

namespace CaseRow

/-- The image of the last capital of the row. -/
def lastImage (r : CaseRow) : Nat := r.image + (r.last - r.first)

/-- Are the images of the row no capitals of `r'`? They lie before or behind all of them, or each of
them lies between two neighbours. -/
def clears (r r' : CaseRow) : Bool :=
  r.lastImage < r'.first || r'.last < r.image ||
    (r.step == 2 || r.first == r.last) && r'.step == 2 && (r.image + r'.first) % 2 == 1

/-- A row moves each of its capitals by the same distance. -/
theorem lower?_eq_some_iff {r : CaseRow} {n m : Nat} :
    r.lower? n = some m ↔
      r.first ≤ n ∧ n ≤ r.last ∧ (n - r.first) % r.step = 0 ∧ m = r.image + (n - r.first) := by
  rw [lower?]
  split
  · next h =>
    obtain ⟨hfirst, hlast, hstep⟩ := h
    simp [hfirst, hlast, hstep, eq_comm]
  · next h =>
    refine iff_of_false (by simp) fun ⟨hfirst, hlast, hstep, _⟩ ↦ h ⟨hfirst, hlast, hstep⟩

theorem image_le_of_lower? {r : CaseRow} {n m : Nat} (h : r.lower? n = some m) :
    r.image ≤ m ∧ m ≤ r.lastImage := by
  obtain ⟨hfirst, hlast, -, rfl⟩ := lower?_eq_some_iff.1 h
  rw [lastImage]
  omega

/-- A row whose capitals keep clear of the images of another has no lower-case forms for these. -/
theorem lower?_of_clears {r r' : CaseRow} (h : r.clears r' = true) {n m : Nat}
    (hn : r.lower? n = some m) : r'.lower? m = none := by
  obtain ⟨himage, hlastImage⟩ := image_le_of_lower? hn
  obtain ⟨hfirst, hlast, hstep, hm⟩ := lower?_eq_some_iff.1 hn
  refine Option.eq_none_iff_forall_ne_some.2 fun k hk ↦ ?_
  obtain ⟨hfirst', hlast', hstep', -⟩ := lower?_eq_some_iff.1 hk
  simp only [clears, Bool.or_eq_true, Bool.and_eq_true, decide_eq_true_eq, beq_iff_eq] at h
  rcases h with (h | h) | ⟨⟨h, h'⟩, hodd⟩
  · omega
  · omega
  · -- `m` is an even distance from the first image, and the first image an odd one from `r'.first`
    rw [h'] at hstep'
    rcases h with h | h
    · rw [h] at hstep
      omega
    · omega

end CaseRow

/-- No image of a row is a capital. -/
theorem clears_of_mem {r r' : CaseRow} (hr : r ∈ caseRows) (hr' : r' ∈ caseRows) :
    r.clears r' = true := by
  have hall : (caseRows.all fun r ↦ caseRows.all r.clears) = true := by decide +kernel
  exact List.all_eq_true.1 (List.all_eq_true.1 hall r hr) r' hr'

/-- The capitals of a row are no letters of an alphabet, or their images are. -/
theorem isApart_or_image_mem (a : Alphabet) :
    ∀ r ∈ caseRows, (∀ q ∈ a.letters.ranges, r.last < q.1 ∨ q.2 < r.first) ∨
      ∃ q ∈ a.letters.ranges, q.1 ≤ r.image ∧ r.lastImage ≤ q.2 := by
  cases a <;> decide +kernel

/-- Letters are characters: no range reaches into the surrogates. -/
theorem isValidChar_of_mem (a : Alphabet) :
    ∀ q ∈ a.letters.ranges, q.2 < 0xD800 ∨ 0xDFFF < q.1 ∧ q.2 < 0x110000 := by
  cases a <;> decide +kernel

private theorem toNat_ofNat {n : Nat} (h : n.isValidChar) : (Char.ofNat n).toNat = n := by
  rw [Char.ofNat, dif_pos h]
  rfl

/-! ### Letters -/

/-- The rows say what the lower-case form of a character is, unless it is the dotted capital I. -/
theorem lowerChar_of_ne {c : Char} (h : c ≠ '\u0130') :
    (∃ r ∈ caseRows, ∃ n, r.lower? c.toNat = some n ∧ lowerChar c = [Char.ofNat n]) ∨
      (∀ r ∈ caseRows, r.lower? c.toNat = none) ∧ lowerChar c = [c] := by
  rw [lowerChar, if_neg h]
  cases hrow : caseRows.findSome? (·.lower? c.toNat) with
  | none => exact .inr ⟨fun r hr ↦ List.findSome?_eq_none_iff.1 hrow r hr, rfl⟩
  | some n =>
    obtain ⟨r, hr, hn⟩ := List.exists_of_findSome?_eq_some hrow
    exact .inl ⟨r, hr, n, hn, rfl⟩

theorem lowerChar_of_forall {c : Char} (hc : c ≠ '\u0130')
    (h : ∀ r ∈ caseRows, r.lower? c.toNat = none) : lowerChar c = [c] := by
  rw [lowerChar, if_neg hc, List.findSome?_eq_none_iff.2 h]

/-- **The lower-case form of a letter is a letter of the same alphabet and its own lower-case
form.** -/
theorem exists_lowerChar_eq {a : Alphabet} {c : Char} (h : a.isLetter c = true)
    (hc : c ≠ '\u0130') :
    ∃ d, lowerChar c = [d] ∧ a.isLetter d = true ∧ lowerChar d = [d] := by
  rcases lowerChar_of_ne hc with ⟨r, hr, n, hn, hlower⟩ | ⟨-, hlower⟩
  · obtain ⟨himage, hlastImage⟩ := CaseRow.image_le_of_lower? hn
    obtain ⟨hfirst, hlast, -⟩ := CaseRow.lower?_eq_some_iff.1 hn
    obtain ⟨p, hp, hp₁, hp₂⟩ := CharClass.contains_eq_true_iff.1 h
    rcases isApart_or_image_mem a r hr with hapart | ⟨q, hq, hq₁, hq₂⟩
    · rcases hapart p hp with hlt | hlt <;> omega
    · have htoNat : (Char.ofNat n).toNat = n := by
        refine toNat_ofNat ?_
        rcases isValidChar_of_mem a q hq with hvalid | ⟨hvalid, hvalid'⟩
        · exact .inl (by omega)
        · exact .inr (by omega)
      refine ⟨Char.ofNat n, hlower, CharClass.contains_eq_true_iff.2 ⟨q, hq, ?_⟩,
        lowerChar_of_forall ?_ fun r' hr' ↦ ?_⟩
      · rw [htoNat]
        omega
      · -- no row has the dotted capital among its images
        have hdotted : ∀ r ∈ caseRows, r.lastImage < 0x130 ∨ 0x130 < r.image := by decide +kernel
        intro heq
        have hn' : n = 0x130 := by rw [← htoNat, heq]; rfl
        rcases hdotted r hr with hlt | hlt <;> omega
      · rw [htoNat]
        exact CaseRow.lower?_of_clears (clears_of_mem hr hr') hn
  · exact ⟨c, hlower, h, hlower⟩

end Concordance
