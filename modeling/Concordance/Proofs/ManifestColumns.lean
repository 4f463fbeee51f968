import Concordance.Proofs.Blank
import Concordance.Proofs.Cut
import Concordance.Proofs.Manifest

/-!
# Manifests in columns

A crawler writes a manifest in two columns: the identifier, filled up with spaces to a width of five,
and directly behind it the address. Up to four digits leave room for a space, and the line is read
back as it was written. An identifier of five or more digits fills its column; nothing separates it
from the address, so the line has no blank at all and is a failure.

Each line gives what it gives on its own (`readLines_columnLine`). So of such a manifest just the
entries with identifiers below 10000 are read, in their order, and every other line is reported under
its number.
-/

namespace Concordance

namespace DocId

/-- The canonical spelling, filled up with spaces to a width of five. -/
def column (id : DocId) : List Char := id.digits.rightpad 5 ' '

/-- The identifiers below 10000 have up to four digits, which leaves room in the column. -/
theorem length_digits_lt_iff {id : DocId} : id.digits.length < 5 ↔ id < 10000 := by
  have hlength : id.digits.length ≤ 4 ↔ id.toNat < 10 ^ 4 :=
    Nat.length_toDigits_le_iff (by decide) (by decide)
  have hlimit : (10000 : UInt64).toNat = 10 ^ 4 := rfl
  rw [UInt64.lt_iff_toNat_lt, hlimit]
  omega

theorem isBlank_of_mem_digits {id : DocId} {c : Char} (h : c ∈ id.digits) : isBlank c = false := by
  have hapart : ∀ p ∈ blankCharacters.ranges, p.2 < 48 ∨ 57 < p.1 := by decide
  have hdigit := isDigit_of_mem_digits h
  simp only [Char.isDigit, Bool.and_eq_true, decide_eq_true_eq, ge_iff_le, UInt32.le_iff_toNat_le]
    at hdigit
  rw [← Bool.not_eq_true, isBlank, CharClass.contains_eq_true_iff]
  rintro ⟨p, hp, hp₁, hp₂⟩
  have hlow : 48 ≤ c.toNat := hdigit.1
  have hhigh : c.toNat ≤ 57 := hdigit.2
  rcases hapart p hp with hlt | hlt <;> omega

/-- A column with room ends with a space. -/
theorem column_of_lt {id : DocId} (h : id < 10000) :
    ∃ n, id.column = id.digits ++ ' ' :: List.replicate n ' ' := by
  refine ⟨4 - id.digits.length, ?_⟩
  have hlength := length_digits_lt_iff.2 h
  rw [column, List.rightpad, show 5 - id.digits.length = 4 - id.digits.length + 1 by omega,
    List.replicate_succ]

/-- A column without room is the spelling itself. -/
theorem column_of_not_lt {id : DocId} (h : ¬ id < 10000) : id.column = id.digits := by
  have hlength := length_digits_lt_iff.not.2 h
  rw [column, List.rightpad, show 5 - id.digits.length = 0 by omega, List.replicate_zero,
    List.append_nil]

end DocId

/-- The address is not empty and has no blanks. -/
def IsAddress (url : String) : Prop := url ≠ "" ∧ ∀ c ∈ url.toList, isBlank c = false

instance (url : String) : Decidable (IsAddress url) :=
  decidable_of_iff (url ≠ "" ∧ (url.toList.all fun c ↦ !isBlank c) = true) (by simp [IsAddress])

namespace Corpus

/-! ### Lines -/

/-- The line of a document: the identifier in its column, then the address. -/
def columnLine (p : DocId × String) : List Char := p.1.column ++ p.2.toList

/-- The manifest with a line for each of the documents. -/
def columnManifest (ps : List (DocId × String)) : String :=
  String.ofList (ps.flatMap fun p ↦ columnLine p ++ ['\n'])

variable {p : DocId × String} {root : Path}

theorem mem_columnLine {c : Char} (h : c ∈ columnLine p) :
    c ∈ p.1.digits ∨ c = ' ' ∨ c ∈ p.2.toList := by
  rw [columnLine, DocId.column, List.rightpad, List.mem_append, List.mem_append] at h
  rcases h with (h | h) | h
  · exact .inl h
  · exact .inr (.inl (List.eq_of_mem_replicate h))
  · exact .inr (.inr h)

/-- **The lines of the manifest are those it was written with.** -/
theorem lines_columnManifest {ps : List (DocId × String)} (h : ∀ p ∈ ps, IsAddress p.2) :
    lines (· = '\n') (columnManifest ps).toList = ps.map columnLine := by
  have hlines : (columnManifest ps).toList = (ps.map columnLine).flatMap (· ++ ['\n']) := by
    rw [columnManifest, String.toList_ofList, List.flatMap_map]
  rw [hlines]
  refine lines_flatMap (by decide) fun l hl c hc ↦ decide_eq_false ?_
  obtain ⟨p, hp, rfl⟩ := List.mem_map.1 hl
  rcases mem_columnLine hc with hc | rfl | hc
  · exact ne_newline (DocId.isBlank_of_mem_digits hc)
  · decide
  · exact ne_newline ((h p hp).2 c hc)

/-- A line has no blanks at its ends. -/
theorem trim_columnLine (h : IsAddress p.2) : trim (columnLine p) = columnLine p := by
  refine trim_eq_self (fun c hc ↦ ?_) (fun c hc ↦ ?_)
  · obtain ⟨d, rest, hd⟩ := List.exists_cons_of_ne_nil p.1.digits_ne_nil
    rw [columnLine, DocId.column, List.rightpad, hd] at hc
    obtain rfl : d = c := by simpa using hc
    have hmem : d ∈ p.1.digits := by rw [hd]; exact List.mem_cons_self
    exact DocId.isBlank_of_mem_digits hmem
  · have hne : p.2.toList ≠ [] := by simpa using h.1
    rw [columnLine, List.getLast?_append, Option.or_of_isSome (by simpa using hne)] at hc
    exact h.2 c (List.mem_of_getLast? hc)

/-- **What a line of a manifest in columns gives**: the identifier and the address, or else a fault,
because there is no blank between them. -/
theorem readLine_columnLine (h : IsAddress p.2) :
    readLine (columnLine p) = if p.1 < 10000 then .ok p else .error .noBlank := by
  split
  · next hshort =>
    obtain ⟨n, hn⟩ := DocId.column_of_lt hshort
    have hspaces : ∀ c ∈ List.replicate n ' ', isBlank c = true := by
      intro c hc
      rw [List.eq_of_mem_replicate hc]
      decide
    have hsplit : splitAtBlank? (columnLine p) =
        some (p.1.digits, List.replicate n ' ' ++ p.2.toList) := by
      rw [columnLine, hn, List.append_assoc, List.cons_append]
      exact splitAtBlank?_append (fun c hc ↦ DocId.isBlank_of_mem_digits hc) (by decide) _
    simp only [readLine, hsplit, DocId.parse_digits, trim_append hspaces, trim_of_forall h.2,
      String.ofList_toList]
  · next hshort =>
    have hnone : splitAtBlank? (columnLine p) = none := by
      rw [splitAtBlank?_eq_none_iff, columnLine, DocId.column_of_not_lt hshort]
      intro c hc
      rcases List.mem_append.1 hc with hc | hc
      · exact DocId.isBlank_of_mem_digits hc
      · exact h.2 c hc
    simp only [readLine, hnone]

/-! ### Manifests -/

/-- What the line of a document gives, by the number of the line. -/
def ofColumnLine (root : Path) (q : (DocId × String) × Nat) : Except Failure Entry :=
  if q.1.1 < 10000 then .ok ⟨q.1.1, q.1.2, documentPath root q.1.1⟩
  else .error ⟨none, manifestPath root, .line q.2 .noBlank⟩

/-- **Each line of a manifest in columns gives what it gives on its own**, if no identifier occurs
twice. -/
theorem readLines_columnLine {ps : List (DocId × String)} (h : ∀ p ∈ ps, IsAddress p.2) {n : Nat}
    {seen : List DocId} (hnodup : (ps.map Prod.fst).Nodup) (hseen : ∀ p ∈ ps, p.1 ∉ seen) :
    readLines root n seen (ps.map columnLine) = (ps.zipIdx n).map (ofColumnLine root) := by
  induction ps generalizing n seen with
  | nil => rfl
  | cons p ps ih =>
    have haddress := h p List.mem_cons_self
    have hrest := fun q hq ↦ h q (List.mem_cons_of_mem p hq)
    have hseen' := fun q hq ↦ hseen q (List.mem_cons_of_mem p hq)
    obtain ⟨hfresh, hnodup⟩ := List.nodup_cons.1 hnodup
    have hne : (trim (columnLine p)).isEmpty = false := by
      rw [trim_columnLine haddress]
      simpa [columnLine] using fun _ ↦ haddress.1
    rw [List.map_cons, readLines, hne, if_neg Bool.false_ne_true, trim_columnLine haddress,
      readLine_columnLine haddress, List.zipIdx_cons, List.map_cons, ofColumnLine]
    by_cases hshort : p.1 < 10000
    · have hseen'' : ∀ q ∈ ps, q.1 ∉ p.1 :: seen := by
        intro q hq hmem
        rcases List.mem_cons.1 hmem with heq | hmem
        · exact hfresh (heq ▸ List.mem_map_of_mem hq)
        · exact hseen' q hq hmem
      simp only [if_pos hshort, if_neg (hseen p List.mem_cons_self), ih hrest hnodup hseen'']
    · simp only [if_neg hshort, ih hrest hnodup hseen']

/-- A line is an entry exactly if its identifier leaves room for a space. -/
theorem entry?_ofColumnLine (q : (DocId × String) × Nat) :
    entry? (ofColumnLine root q) =
      if q.1.1 < 10000 then some ⟨q.1.1, q.1.2, documentPath root q.1.1⟩ else none := by
  rw [ofColumnLine]
  split <;> rfl

theorem failure?_ofColumnLine (q : (DocId × String) × Nat) :
    failure? (ofColumnLine root q) =
      if q.1.1 < 10000 then none else some ⟨none, manifestPath root, .line q.2 .noBlank⟩ := by
  rw [ofColumnLine]
  split <;> rfl

private theorem filterMap_entry?_ofColumnLine (ps : List (DocId × String)) (n : Nat) :
    ((ps.zipIdx n).map (ofColumnLine root)).filterMap entry? =
      (ps.filter fun p ↦ p.1 < 10000).map fun p ↦ ⟨p.1, p.2, documentPath root p.1⟩ := by
  induction ps generalizing n with
  | nil => rfl
  | cons p ps ih =>
    rw [List.zipIdx_cons, List.map_cons, List.filterMap_cons, ih, entry?_ofColumnLine]
    by_cases hshort : p.1 < 10000 <;> simp [hshort]

private theorem filterMap_failure?_ofColumnLine (qs : List ((DocId × String) × Nat)) :
    (qs.map (ofColumnLine root)).filterMap failure? =
      (qs.filter fun q ↦ 10000 ≤ q.1.1).map fun q ↦
        ⟨none, manifestPath root, .line q.2 .noBlank⟩ := by
  induction qs with
  | nil => rfl
  | cons q qs ih =>
    rw [List.map_cons, List.filterMap_cons, ih, failure?_ofColumnLine]
    by_cases hshort : q.1.1 < 10000
    · simp [hshort, UInt64.not_le.2 hshort]
    · simp [hshort, UInt64.not_lt.1 hshort]

/-- **A manifest in columns is read up to the width of its first column.** The documents with an
identifier of up to four digits are its entries, in the order of the manifest, each with its own
address. Every other line is a failure under its own number, for want of a blank. So nothing is lost
exactly if all identifiers are that short. -/
theorem manifest_in_columns (root : Path) (ps : List (DocId × String))
    (hnodup : (ps.map Prod.fst).Nodup) (h : ∀ p ∈ ps, IsAddress p.2) :
    (ofManifest root (columnManifest ps)).entries =
        ((ps.filter fun p ↦ p.1 < 10000).map fun p ↦ ⟨p.1, p.2, documentPath root p.1⟩) ∧
      (ofManifest root (columnManifest ps)).failures =
        (((ps.zipIdx 1).filter fun q ↦ 10000 ≤ q.1.1).map fun q ↦
          ⟨none, manifestPath root, .line q.2 .noBlank⟩) ∧
      ((ofManifest root (columnManifest ps)).failures = [] ↔ ∀ p ∈ ps, p.1 < 10000) := by
  have hread : readManifest root (columnManifest ps) = (ps.zipIdx 1).map (ofColumnLine root) := by
    rw [readManifest, lines_columnManifest h]
    exact readLines_columnLine h hnodup fun p _ ↦ List.not_mem_nil
  have hfailures : (ofManifest root (columnManifest ps)).failures =
      (((ps.zipIdx 1).filter fun q ↦ 10000 ≤ q.1.1).map fun q ↦
        ⟨none, manifestPath root, .line q.2 .noBlank⟩) := by
    rw [ofManifest, hread, filterMap_failure?_ofColumnLine]
  refine ⟨?_, hfailures, ?_⟩
  · rw [ofManifest, hread, filterMap_entry?_ofColumnLine]
  · rw [hfailures, List.map_eq_nil_iff, List.filter_eq_nil_iff]
    constructor
    · intro hall p hp
      rw [← List.zipIdx_map_fst 1 ps] at hp
      obtain ⟨q, hq, rfl⟩ := List.mem_map.1 hp
      simpa using hall q hq
    · intro hall q hq
      simpa using hall q.1 (List.fst_mem_of_mem_zipIdx hq)

/-- The largest identifier that leaves room for a space, and the smallest that does not. -/
theorem manifest_in_columns_of_neighbours :
    (ofManifest ⟨"Pages"⟩ (columnManifest [(9999, "a"), (10000, "b"), (0, "1")])).entries =
        [⟨9999, "a", ⟨"Pages/9999.txt"⟩⟩, ⟨0, "1", ⟨"Pages/0.txt"⟩⟩] ∧
      (ofManifest ⟨"Pages"⟩ (columnManifest [(9999, "a"), (10000, "b"), (0, "1")])).failures =
        [⟨none, ⟨"Pages/index.txt"⟩, .line 2 .noBlank⟩] := by
  have hall := manifest_in_columns ⟨"Pages"⟩ [(9999, "a"), (10000, "b"), (0, "1")] (by decide)
    (by decide +kernel)
  exact ⟨hall.1, hall.2.1⟩

/-- An identifier of five digits and an address run together. -/
theorem column_without_room :
    ([((10000 : DocId), "a")].map Prod.fst).Nodup ∧
      (∀ p ∈ [((10000 : DocId), "a")], IsAddress p.2) ∧
      (ofManifest ⟨"Pages"⟩ (columnManifest [(10000, "a")])).entries ≠
        [⟨10000, "a", ⟨"Pages/10000.txt"⟩⟩] ∧
      (ofManifest ⟨"Pages"⟩ (columnManifest [(10000, "a")])).failures ≠ [] :=
  ⟨by decide, by decide +kernel, by decide +kernel, by decide +kernel⟩

end Corpus

end Concordance
