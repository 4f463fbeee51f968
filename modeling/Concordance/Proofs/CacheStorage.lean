import Concordance.Proofs.CacheRecord
import Concordance.Proofs.Volume.Growth

/-!
# Caches are loaded as they were saved

A save that succeeds leaves the whole document of its record at the path, and what is loaded from a
path is decided by the content there. The two facts meet in the document: it is read back as the
record it was made of, so it gives the index to whoever asks under the settings of the save, and
nothing to anyone else.

The same reading back makes documents canonical. A record can be recovered from its document, so
different indexes, or equal ones under different settings, are never saved as the same octets
(`ofIndex_encode_inj`). Ordered containers have one listing each, so nothing else shows in a
document: neither the order in which an index was grown, nor the volume, nor the path.
-/

namespace Concordance

namespace CacheRecord

/-- **A document determines its record.** -/
theorem encode_injective {r r' : CacheRecord} (h : r.encode = r'.encode) : r = r' := by
  have hdecode := congrArg decode? h
  rwa [decode?_encode, decode?_encode, Option.some.injEq] at hdecode

/-- The document of an index determines the index and the settings under which it was made. -/
theorem ofIndex_encode_inj {x x' : Index} {s s' : Settings} :
    (ofIndex x s).encode = (ofIndex x' s').encode ↔ x = x' ∧ s = s' := by
  constructor
  · intro h
    have hrecord := encode_injective h
    simp only [ofIndex, mk.injEq] at hrecord
    obtain ⟨-, -, hsettings, hdocuments, hpostings, hsources⟩ := hrecord
    refine ⟨?_, hsettings⟩
    cases x; cases x'; cases hdocuments; cases hpostings; cases hsources
    rfl
  · rintro ⟨rfl, rfl⟩
    rfl

end CacheRecord

namespace Volume

variable {v w : Volume} {p : Path} {m : Option Mishap} {x : Index} {s : Settings}

/-- What is loaded from a path that has a content is the index in that content. -/
theorem loadCache?_of_contentAt {content : Octets} (h : v.contentAt p = .ok content)
    (s : Settings) : v.loadCache? p s = CacheRecord.indexOf? content s := by
  refine Option.ext fun x ↦ ?_
  rw [loadCache?_eq_some_iff]
  constructor
  · rintro ⟨content', hcontent', hx⟩
    rw [h, Except.ok.injEq] at hcontent'
    rwa [hcontent']
  · intro hx
    exact ⟨content, h, hx⟩

/-- A save that succeeds leaves the document of the index at the path. -/
theorem contentAt_of_saveCache (h : v.saveCache x s p m = (w, none)) :
    w.contentAt p = .ok (CacheRecord.ofIndex x s).encode :=
  contentAt_of_replaceFile h

/-- **A saved index is loaded under the settings of the save and under no others**, and two saves,
on whatever volumes and to whatever paths, leave the same octets exactly if they save the same index
under the same settings. -/
theorem saved_index_is_loaded (hx : x.Covered) (hsave : v.saveCache x s p m = (w, none)) :
    (∀ s', w.loadCache? p s' = if s' = s then some x else none) ∧
      ∀ (v' w' : Volume) (x' : Index) (s' : Settings) (p' : Path) (m' : Option Mishap),
        v'.saveCache x' s' p' m' = (w', none) →
          ∃ content content', w.contentAt p = .ok content ∧ w'.contentAt p' = .ok content' ∧
            (content = content' ↔ x = x' ∧ s = s') := by
  have hcontent := contentAt_of_saveCache hsave
  constructor
  · intro s'
    rw [loadCache?_of_contentAt hcontent, CacheRecord.indexOf?_encode hx]
    simp only [eq_comm]
  · intro v' w' x' s' p' m' hsave'
    exact ⟨_, _, hcontent, contentAt_of_saveCache hsave', CacheRecord.ofIndex_encode_inj⟩

/-- An index with the largest identifier, the empty term, terms that need escapes or lie outside the
basic plane, and the address of a document that is not in it. -/
def unusualIndex : Index :=
  (((∅ : Index).add 18446744073709551615 ["", "\"\\/\n\x01\x7f", "😀"]).setSource
    18446744073709551615 "a\tb\\").setSource 3 ""

/-- An empty volume on which that index was saved. -/
def unusualVolume : Volume :=
  ((Volume.mk [] ∅).saveCache unusualIndex ⟨.latin, true⟩ ⟨"a/b/index.json"⟩ none).1

theorem saved_index_is_loaded_of_unusualIndex :
    unusualIndex.Covered ∧
      (Volume.mk [] ∅).saveCache unusualIndex ⟨.latin, true⟩ ⟨"a/b/index.json"⟩ none =
        (unusualVolume, none) ∧
      unusualVolume.loadCache? ⟨"a/b/index.json"⟩ ⟨.latin, true⟩ = some unusualIndex ∧
      unusualVolume.loadCache? ⟨"a/b/index.json"⟩ ⟨.latin, false⟩ = none := by
  have hcovered : unusualIndex.Covered := Index.isCovered_eq_true_iff.1 (by decide +kernel)
  have hsave : (Volume.mk [] ∅).saveCache unusualIndex ⟨.latin, true⟩ ⟨"a/b/index.json"⟩ none =
      (unusualVolume, none) := Prod.ext rfl (by decide +kernel)
  have hload := (saved_index_is_loaded hcovered hsave).1
  exact ⟨hcovered, hsave, hload ⟨.latin, true⟩, hload ⟨.latin, false⟩⟩

end Volume

end Concordance
