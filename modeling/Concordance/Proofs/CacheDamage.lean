import Mathlib.Data.List.Basic
import Concordance.Proofs.CacheStorage

/-!
# Damaged caches

A document that is cut short, or that something follows, is not taken for a cache. The argument
needs nothing of what the document says. Once the outermost value could end, no container is open
any more, and from there on the machine takes blanks and what continues a number, but never a brace
(`IsOuter.not_mem_of_run?`). So no beginning of a document can do without a brace that is missing
from it (`read?_eq_none_of_append`), and the document of a record is an object: it ends in one.

Behind an object the machine takes blanks and nothing else (`run?_outermost_eq_some_iff`).
-/

namespace Concordance

namespace Json

/-! ### At the end of a document -/

/-- No container is open, and the outermost value could end here or has ended. -/
inductive IsOuter : Reader → Prop where
  /-- The value has ended. -/
  | complete (v : RawJson) : IsOuter ⟨[], .complete v⟩
  /-- The value is a number. -/
  | number (literal : Octets) (part : NumberPart) : IsOuter ⟨[], .inNumber literal part⟩

/-- A document can only end where no container is open. -/
theorem isOuter_of_result? {r : Reader} {v : RawJson} (h : r.result? = some v) : IsOuter r := by
  obtain ⟨frames, phase⟩ := r
  rw [Reader.result?] at h
  split at h
  · next hframes hphase =>
    cases hframes
    cases hphase
    exact .complete _
  · next hframes hphase =>
    cases hframes
    cases hphase
    exact .number _ _
  · exact absurd h (by simp)

/-- Behind the outermost value there is room for blanks only. -/
theorem afterValue?_nil (v : RawJson) (o : UInt8) :
    afterValue? [] v o = if isSpace o then some ⟨[], .complete v⟩ else none :=
  rfl

theorem step?_complete (v : RawJson) (o : UInt8) :
    Reader.step? ⟨[], .complete v⟩ o = if isSpace o then some ⟨[], .complete v⟩ else none :=
  rfl

theorem ne_brace_of_isSpace {o : UInt8} (h : isSpace o = true) : o ≠ 0x7D := by
  rintro rfl
  exact absurd h (by decide)

/-- **Nothing is opened or closed behind the outermost value.** -/
theorem IsOuter.of_step? {r r' : Reader} {o : UInt8} (h : IsOuter r) (hstep : r.step? o = some r') :
    IsOuter r' ∧ o ≠ 0x7D := by
  have hafter {v : RawJson} (hafter : afterValue? [] v o = some r') : IsOuter r' ∧ o ≠ 0x7D := by
    rw [afterValue?_nil] at hafter
    split at hafter
    · next hspace =>
      obtain rfl := Option.some.inj hafter
      exact ⟨.complete v, ne_brace_of_isSpace hspace⟩
    · exact absurd hafter (by simp)
  cases h with
  | complete v => exact hafter hstep
  | number literal part =>
    rw [Reader.step?] at hstep
    cases hnext : part.next? o with
    | some part' =>
      simp only [hnext] at hstep
      obtain rfl := Option.some.inj hstep
      refine ⟨.number _ _, ?_⟩
      rintro rfl
      have hbrace : part.next? 0x7D = none := next?_of_mem (by decide) part
      rw [hbrace] at hnext
      exact absurd hnext (by simp)
    | none =>
      simp only [hnext] at hstep
      split at hstep
      · exact hafter hstep
      · exact absurd hstep (by simp)

/-- **Outside all containers no brace is taken**, by induction on the octets. -/
theorem IsOuter.not_mem_of_run? {r r' : Reader} {s : Octets} (h : IsOuter r)
    (hrun : r.run? s = some r') : 0x7D ∉ s := by
  induction s generalizing r with
  | nil => exact List.not_mem_nil
  | cons o s ih =>
    rw [Reader.run?_cons] at hrun
    obtain ⟨r₁, hstep, hrun⟩ := Option.bind_eq_some_iff.1 hrun
    obtain ⟨h₁, hne⟩ := h.of_step? hstep
    rw [List.mem_cons, not_or]
    exact ⟨Ne.symm hne, ih h₁ hrun⟩

/-- **A beginning of a document from which a brace is missing is no document.** -/
theorem read?_eq_none_of_append {s t : Octets} {v : RawJson} (h : read? (s ++ t) = some v)
    (ht : 0x7D ∈ t) : read? s = none := by
  refine Option.eq_none_iff_forall_not_mem.2 fun w hw ↦ ?_
  obtain ⟨r, hr, hresult⟩ := Option.bind_eq_some_iff.1 hw
  obtain ⟨r', hr', -⟩ := Option.bind_eq_some_iff.1 h
  rw [Reader.run?_append_of_run hr] at hr'
  exact (isOuter_of_result? hresult).not_mem_of_run? hr' ht

/-- Behind a value that has ended the machine takes blanks. -/
theorem run?_outermost_eq_some_iff {v : RawJson} {s : Octets} {r : Reader} :
    Reader.run? ⟨[], .complete v⟩ s = some r ↔
      (∀ o ∈ s, isSpace o = true) ∧ r = ⟨[], .complete v⟩ := by
  induction s with
  | nil => rw [Reader.run?_nil, Option.some.injEq, eq_comm, and_iff_right (List.forall_mem_nil _)]
  | cons o s ih =>
    rw [Reader.run?_cons, step?_complete, List.forall_mem_cons]
    cases ho : isSpace o with
    | true => rw [if_pos rfl, Option.bind_some, ih, and_iff_right rfl]
    | false => simp

/-! ### Written objects -/

/-- The octets of an object end in a brace. -/
theorem octetsOf_toText_object (members : List (String × Json Nat String)) :
    octetsOf (toText (.object members)) = 0x7B :: (utf8 (writeMembers members) ++ [0x7D]) := by
  rw [octetsOf, toText, String.toList_ofList, utf8_write_object]

/-- The machine has completed an object at its last octet. -/
theorem run?_toText_object (members : List (String × Json Nat String)) :
    Reader.run? ⟨[], .value⟩ (octetsOf (toText (.object members))) =
      some ⟨[], .complete (raw (.object members))⟩ := by
  obtain ⟨r, hrun, hsettled⟩ := readsAs _ _ (isSpelled (.object members)) []
  rw [octetsOf, toText, String.toList_ofList, hrun]
  rw [raw] at hsettled ⊢
  cases hsettled with
  | complete => rfl

/-- **No proper beginning of a written object is a document.** -/
theorem read?_eq_none_of_isPrefix {members : List (String × Json Nat String)} {s : Octets}
    (h : s <+: octetsOf (toText (.object members)))
    (hne : s ≠ octetsOf (toText (.object members))) : read? s = none := by
  obtain ⟨t, ht⟩ := h
  have hread : read? (s ++ t) = some (raw (.object members)) := by
    rw [ht]
    exact read?_toText (.object members)
  -- The missing part is not empty, so the last octet of the object is in it.
  rcases List.eq_nil_or_concat t with rfl | ⟨t', o, rfl⟩
  · exact absurd (by rw [← ht, List.append_nil]) hne
  · have hlast := congrArg List.getLast? ht
    rw [octetsOf_toText_object, ← List.cons_append, List.getLast?_concat, List.concat_eq_append,
      ← List.append_assoc, List.getLast?_concat, Option.some.injEq] at hlast
    exact read?_eq_none_of_append hread (by simp [hlast])

/-- **What follows a written object must be blank.** -/
theorem read?_toText_object_append {members : List (String × Json Nat String)} {s : Octets}
    (h : ∃ o ∈ s, isSpace o = false) : read? (octetsOf (toText (.object members)) ++ s) = none := by
  refine Option.eq_none_iff_forall_not_mem.2 fun w hw ↦ ?_
  obtain ⟨r, hr, -⟩ := Option.bind_eq_some_iff.1 hw
  rw [Reader.run?_append_of_run (run?_toText_object members)] at hr
  obtain ⟨o, ho, hspace⟩ := h
  rw [(run?_outermost_eq_some_iff.1 hr).1 o ho] at hspace
  exact absurd hspace (by simp)

end Json

namespace CacheRecord

/-- The content is what is left of a document that was cut short, or a document that something
other than blanks follows. -/
def IsDamaged (document content : Octets) : Prop :=
  (content <+: document ∧ content ≠ document) ∨
    ∃ extra, content = document ++ extra ∧ ∃ o ∈ extra, Json.isSpace o = false

/-- **A damaged document holds no record.** -/
theorem decode?_of_isDamaged {r : CacheRecord} {content : Octets}
    (h : IsDamaged r.encode content) : decode? content = none := by
  rw [decode?, Option.bind_eq_none_iff]
  rcases h with ⟨hstart, hne⟩ | ⟨extra, rfl, hextra⟩
  · intro v hv
    rw [encode, toJson] at hstart hne
    rw [Json.read?_eq_none_of_isPrefix hstart hne] at hv
    exact absurd hv (by simp)
  · intro v hv
    rw [encode, toJson, Json.read?_toText_object_append hextra] at hv
    exact absurd hv (by simp)

end CacheRecord

namespace Volume

/-- **A cache that was cut short, or that something follows, is never loaded**, whatever settings
are asked for. The document is the one that saving the index leaves at some path of some volume; the
damaged one may be anywhere. -/
theorem damaged_cache_is_not_loaded {u u' v : Volume} {x : Index} {s : Settings} {q p : Path}
    {m : Option Mishap} {document content : Octets} (hsave : u.saveCache x s q m = (u', none))
    (hdocument : u'.contentAt q = .ok document) (hcontent : v.contentAt p = .ok content)
    (hdamaged : CacheRecord.IsDamaged document content) (s' : Settings) :
    v.loadCache? p s' = none := by
  rw [contentAt_of_saveCache hsave, Except.ok.injEq] at hdocument
  subst hdocument
  rw [loadCache?_of_contentAt hcontent, CacheRecord.indexOf?,
    CacheRecord.decode?_of_isDamaged hdamaged]
  rfl

/-- An index of one document, in which one term occurs. -/
def indexOfOneWord : Index := (∅ : Index).add 7 ["кот"]

/-- The document of that index. -/
def documentOfOneWord : Octets :=
  (CacheRecord.ofIndex indexOfOneWord ⟨.cyrillic, false⟩).encode

/-- A volume with the document of that index, cut inside the first letter of the term. -/
def cutVolume : Volume :=
  (Volume.mk [] ∅).put ["index.json"] (.file (documentOfOneWord.take 114))

/-- The document is cut inside a character of its only term. -/
theorem damaged_cache_is_not_loaded_of_cutVolume :
    cutVolume.contentAt ⟨"index.json"⟩ = .ok (documentOfOneWord.take 114) ∧
      (documentOfOneWord.take 114).getLast? = some 0xD0 ∧
      CacheRecord.IsDamaged documentOfOneWord (documentOfOneWord.take 114) ∧
      cutVolume.loadCache? ⟨"index.json"⟩ ⟨.cyrillic, false⟩ = none := by
  have hsave : (Volume.mk [] ∅).saveCache indexOfOneWord ⟨.cyrillic, false⟩ ⟨"index.json"⟩ none =
      (((Volume.mk [] ∅).saveCache indexOfOneWord ⟨.cyrillic, false⟩ ⟨"index.json"⟩ none).1,
        none) := Prod.ext rfl (by decide +kernel)
  have hcontent : cutVolume.contentAt ⟨"index.json"⟩ = .ok (documentOfOneWord.take 114) :=
    contentAt_eq_ok_iff.2 ⟨[], "index.json", by decide +kernel, rfl⟩
  have hdamaged : CacheRecord.IsDamaged documentOfOneWord (documentOfOneWord.take 114) :=
    .inl ⟨List.take_prefix _ _, ne_of_apply_ne List.length (by decide +kernel)⟩
  exact ⟨hcontent, by decide +kernel, hdamaged,
    damaged_cache_is_not_loaded hsave (contentAt_of_saveCache hsave) hcontent hdamaged _⟩

end Volume

end Concordance
