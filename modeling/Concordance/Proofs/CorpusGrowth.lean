import Concordance.Proofs.Manifest
import Concordance.Proofs.Survey
import Concordance.Proofs.Volume.Growth

/-!
# A corpus on a growing volume

As long as no file of a corpus is written, the corpus says the same on a volume that grows: its
manifest is the same (`corpus?_of_grown`), and so is every document (`textAt_iff_of_grown`). A
document that could not be read does not become readable when directories are made, because the
manifest could be read and lies in the same directory.
-/

namespace Concordance

namespace Corpus

theorem isName_manifest : Path.IsName "index.txt" where
  ne_empty := by decide
  ne_dot := by decide
  ne_dots := by decide
  no_slash := by
    have hlist : ("index.txt" : String).toList = ['i', 'n', 'd', 'e', 'x', '.', 't', 'x', 't'] :=
      rfl
    simp [hlist]

theorem isName_document (id : DocId) : Path.IsName (id.text ++ ".txt") := by
  have hlist : (".txt" : String).toList = ['.', 't', 'x', 't'] := rfl
  refine .append (fun c hc ↦ ?_) (by rw [hlist]; decide) ⟨'t', rfl, by decide⟩
  rintro rfl
  rw [DocId.toList_text] at hc
  exact absurd (DocId.isDigit_of_mem_digits hc) (by decide)

end Corpus

namespace Volume

variable {v w : Volume} {made written : Place → Prop} {root : Path} {c : Corpus}

/-- A corpus is what its manifest says, as text. -/
theorem corpus?_eq_some_iff :
    v.corpus? root = some c ↔
      ∃ text, v.textAt (Corpus.manifestPath root) = .ok text ∧ c = .ofManifest root text := by
  rw [corpus?]
  cases v.textAt (Corpus.manifestPath root) with
  | error e => simp
  | ok text => simp [eq_comm]

/-- A text that can be read stays unless its file is written. -/
theorem Grown.textAt (h : v.Grown made written w) {p : Path} (hp : ¬ written (p.place v.here))
    {text : String} (ht : v.textAt p = .ok text) : w.textAt p = .ok text := by
  obtain ⟨content, hcontent, htext⟩ := textAt_eq_ok_iff.1 ht
  exact textAt_eq_ok_iff.2 ⟨content, h.contentAt hp hcontent, htext⟩

/-- **A corpus stays the same as long as its manifest is not written.** -/
theorem corpus?_of_grown (h : v.Grown made written w)
    (hwritten : ¬ written ((Corpus.manifestPath root).place v.here))
    (hc : v.corpus? root = some c) : w.corpus? root = some c := by
  obtain ⟨text, htext, rfl⟩ := corpus?_eq_some_iff.1 hc
  exact corpus?_eq_some_iff.2 ⟨text, h.textAt hwritten htext, rfl⟩

/-- **A document reads the same on a grown volume**, and so does one that cannot be read. -/
theorem textAt_iff_of_grown (h : v.Grown made written w) (hc : v.corpus? root = some c)
    {e : Entry} (he : e ∈ c.entries) (hwritten : ¬ written (e.path.place v.here)) (text : String) :
    v.textAt e.path = .ok text ↔ w.textAt e.path = .ok text := by
  refine ⟨h.textAt hwritten, fun ht ↦ ?_⟩
  obtain ⟨manifest, hmanifest, rfl⟩ := corpus?_eq_some_iff.1 hc
  obtain ⟨manifestContent, hmanifest, -⟩ := textAt_eq_ok_iff.1 hmanifest
  obtain ⟨d, n, hmanifest, -⟩ := contentAt_eq_ok_iff.1 hmanifest
  obtain ⟨content, hcontent, htext⟩ := textAt_eq_ok_iff.1 ht
  obtain ⟨parent, name, hloc, hnode⟩ := contentAt_eq_ok_iff.1 hcontent
  rw [Corpus.path_of_mem he] at hloc hwritten ⊢
  -- The manifest was found in the directory of the document.
  have hloc' := locate_child_of_locate_child h.here Corpus.isName_manifest
    (Corpus.isName_document e.id) hmanifest hloc
  have hplace : (Corpus.documentPath root e.id).place v.here = parent ++ [name] :=
    place_of_locate hloc'
  rw [hplace] at hwritten
  exact textAt_eq_ok_iff.2
    ⟨content, contentAt_eq_ok_iff.2 ⟨parent, name, hloc', h.file_of_file hwritten hnode⟩, htext⟩

/-- **The full index stays** on a volume that grows without touching the corpus. -/
theorem fullIndex_of_grown (h : v.Grown made written w) (hc : v.corpus? root = some c)
    (hwritten : ∀ e ∈ c.entries, ¬ written (e.path.place v.here)) (s : Settings) :
    c.fullIndex w s = c.fullIndex v s :=
  (Corpus.fullIndex_congr (fun e he ↦ textAt_iff_of_grown h hc he (hwritten e he)) s).symm

end Volume

end Concordance
