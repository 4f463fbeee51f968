import Mathlib.Data.List.Nodup
import Concordance.Corpus.Survey
import Concordance.Proofs.Decimal
import Concordance.Proofs.Volume.Path

/-!
# What a manifest gives

Two facts about the lines of a manifest carry everything that is said of surveys.

* The entries have distinct identifiers (`nodup_ids`), because a line for a document that has an
  entry already is a failure. Whatever is indexed for an identifier therefore comes from one file.
* The failures lie on distinct lines (`nodup_lines`), so a failure is determined by the number of
  its line.

Together with the paths (every failure of a line names the manifest, and every entry a file of its
own) they show that the order of a report's failures is a linear order on the failures that can
occur together: `eq_of_isOrdered`.
-/

namespace Concordance

/-! ### Files of a corpus -/

namespace Corpus

/-- The name of a document's file begins with a digit, and that of the manifest does not. -/
private theorem head?_documentName (id : DocId) :
    ∃ c, (id.text ++ ".txt").toList.head? = some c ∧ c.isDigit = true := by
  have hne := id.digits_ne_nil
  cases hd : id.digits with
  | nil => exact absurd hd hne
  | cons c rest =>
    refine ⟨c, by simp [hd], @DocId.isDigit_of_mem_digits id c ?_⟩
    rw [hd]
    exact List.mem_cons_self

private theorem head?_documentName_ne (id : DocId) :
    (id.text ++ ".txt").toList.head? ≠ some '/' := by
  obtain ⟨c, hc, hdigit⟩ := head?_documentName id
  rw [hc]
  rintro ⟨rfl⟩
  exact absurd hdigit (by decide)

/-- The manifest is not the file of a document. -/
theorem text_manifestPath_ne (root : Path) (id : DocId) :
    (manifestPath root).text ≠ (documentPath root id).text := by
  intro h
  have hname := Path.text_child_inj (by decide) (head?_documentName_ne id) h
  obtain ⟨c, hc, hdigit⟩ := head?_documentName id
  rw [← hname] at hc
  obtain rfl : 'i' = c := by simpa using hc
  exact absurd hdigit (by decide)

/-- **Different documents have different files.** -/
theorem text_documentPath_inj {root : Path} {i j : DocId}
    (h : (documentPath root i).text = (documentPath root j).text) : i = j := by
  have hname := Path.text_child_inj (head?_documentName_ne i) (head?_documentName_ne j) h
  have hlist := congrArg String.toList hname
  simp only [String.toList_append] at hlist
  exact DocId.text_injective (String.toList_inj.1 (List.append_cancel_right hlist))

end Corpus

/-! ### Entries and failures -/

/-- The number of the line that a failure lies on. A document that cannot be read lies on none. -/
def Failure.line? (f : Failure) : Option Nat :=
  match f.cause with
  | .line n _ => some n
  | .unreadable _ => none

namespace Corpus

variable {root : Path}

/-- No entry is of a document that was met before. -/
private theorem id_not_mem_seen {n : Nat} {seen : List DocId} {ls : List (List Char)} :
    ∀ e ∈ (readLines root n seen ls).filterMap entry?, e.id ∉ seen := by
  fun_induction readLines root n seen ls with
  | case1 => simp
  | case2 n seen line rest hblank ih => exact ih
  | case3 n seen line rest hblank fault hfault ih => exact ih
  | case4 n seen line rest hblank id url hline hseen ih => exact ih
  | case5 n seen line rest hblank id url hline hseen ih =>
    intro e he
    rcases List.mem_cons.1 he with rfl | he
    · exact hseen
    · exact fun hmem ↦ ih e he (List.mem_cons_of_mem _ hmem)

/-- By induction on the lines, with the documents met so far left open. -/
private theorem nodup_ids_readLines {n : Nat} {seen : List DocId} {ls : List (List Char)} :
    (((readLines root n seen ls).filterMap entry?).map Entry.id).Nodup := by
  fun_induction readLines root n seen ls with
  | case1 => simp
  | case2 n seen line rest hblank ih => exact ih
  | case3 n seen line rest hblank fault hfault ih => exact ih
  | case4 n seen line rest hblank id url hline hseen ih => exact ih
  | case5 n seen line rest hblank id url hline hseen ih =>
    refine List.nodup_cons.2 ⟨fun hmem ↦ ?_, ih⟩
    obtain ⟨e, he, hid⟩ := List.mem_map.1 hmem
    exact id_not_mem_seen e he (hid ▸ List.mem_cons_self)

private theorem path_of_mem_entries {n : Nat} {seen : List DocId} {ls : List (List Char)} :
    ∀ e ∈ (readLines root n seen ls).filterMap entry?, e.path = documentPath root e.id := by
  fun_induction readLines root n seen ls with
  | case1 => simp
  | case2 n seen line rest hblank ih => exact ih
  | case3 n seen line rest hblank fault hfault ih => exact ih
  | case4 n seen line rest hblank id url hline hseen ih => exact ih
  | case5 n seen line rest hblank id url hline hseen ih =>
    intro e he
    rcases List.mem_cons.1 he with rfl | he
    · rfl
    · exact ih e he

/-- A failure of a line has its number, which is not below that of the first line. -/
private theorem line_of_mem_failures {n : Nat} {seen : List DocId} {ls : List (List Char)} :
    ∀ f ∈ (readLines root n seen ls).filterMap failure?,
      f.path = manifestPath root ∧ ∃ k fault, n ≤ k ∧ f.cause = .line k fault := by
  fun_induction readLines root n seen ls with
  | case1 => simp
  | case2 n seen line rest hblank ih =>
    intro f hf
    obtain ⟨hpath, k, fault, hk, hcause⟩ := ih f hf
    exact ⟨hpath, k, fault, by omega, hcause⟩
  | case3 n seen line rest hblank e he ih =>
    intro f hf
    rcases List.mem_cons.1 hf with rfl | hf
    · exact ⟨rfl, n, e, Nat.le_refl n, rfl⟩
    · obtain ⟨hpath, k, fault, hk, hcause⟩ := ih f hf
      exact ⟨hpath, k, fault, by omega, hcause⟩
  | case4 n seen line rest hblank id url hline hseen ih =>
    intro f hf
    rcases List.mem_cons.1 hf with rfl | hf
    · exact ⟨rfl, n, .duplicate, Nat.le_refl n, rfl⟩
    · obtain ⟨hpath, k, fault, hk, hcause⟩ := ih f hf
      exact ⟨hpath, k, fault, by omega, hcause⟩
  | case5 n seen line rest hblank id url hline hseen ih =>
    intro f hf
    obtain ⟨hpath, k, fault, hk, hcause⟩ := ih f hf
    exact ⟨hpath, k, fault, by omega, hcause⟩

/-- As the numbers of the lines ascend, no two failures have the same one. -/
private theorem nodup_lines_readLines {n : Nat} {seen : List DocId} {ls : List (List Char)} :
    (((readLines root n seen ls).filterMap failure?).map Failure.line?).Nodup := by
  -- what follows a failure on line `m` lies on later lines
  have later : ∀ {m : Nat} {seen : List DocId} {ls : List (List Char)},
      some m ∉ ((readLines root (m + 1) seen ls).filterMap failure?).map Failure.line? := by
    intro m seen ls hmem
    obtain ⟨f, hf, hline⟩ := List.mem_map.1 hmem
    obtain ⟨-, k, fault, hk, hcause⟩ := line_of_mem_failures f hf
    simp only [Failure.line?, hcause, Option.some.injEq] at hline
    omega
  fun_induction readLines root n seen ls with
  | case1 => simp
  | case2 n seen line rest hblank ih => exact ih
  | case3 n seen line rest hblank fault hfault ih => exact List.nodup_cons.2 ⟨later, ih⟩
  | case4 n seen line rest hblank id url hline hseen ih => exact List.nodup_cons.2 ⟨later, ih⟩
  | case5 n seen line rest hblank id url hline hseen ih => exact ih

/-- **The entries of a corpus have distinct identifiers.** -/
theorem nodup_ids (root : Path) (text : String) :
    ((ofManifest root text).entries.map Entry.id).Nodup :=
  nodup_ids_readLines

/-- **The failures of a manifest lie on distinct lines.** -/
theorem nodup_lines (root : Path) (text : String) :
    ((ofManifest root text).failures.map Failure.line?).Nodup :=
  nodup_lines_readLines

/-- Every entry is read from the file of its document. -/
theorem path_of_mem {text : String} {e : Entry} (h : e ∈ (ofManifest root text).entries) :
    e.path = documentPath root e.id :=
  path_of_mem_entries e h

/-- Every failure of the manifest names the manifest and a line of it. -/
theorem cause_of_mem {text : String} {f : Failure} (h : f ∈ (ofManifest root text).failures) :
    f.path = manifestPath root ∧ ∃ k fault, f.cause = .line k fault := by
  obtain ⟨hpath, k, fault, -, hcause⟩ := line_of_mem_failures f h
  exact ⟨hpath, k, fault, hcause⟩

end Corpus

end Concordance
