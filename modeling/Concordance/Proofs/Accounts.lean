import Concordance.Proofs.Blank
import Concordance.Proofs.Division

/-!
# What becomes of every line and entry

Nothing that a manifest lists is lost in a survey, and nothing counts twice. Every line that is not
blank gives an entry or a failure (`length_entries_add_failures`). Every entry is visited once, and
a visit has one of three *fates*: the document is indexed, or it cannot be read, or it is skipped.

The fate of a visit depends on the volume and the visit only; `Survey.Shows` reads it off the
outcome, from the documents of the index and the failures of the report. `Accounts` puts together
how the parts of an outcome agree with the fates of its visits and with each other, and
`survey_accounts` shows it of every survey, whatever interrupts it and however it is divided.
-/

namespace Concordance

/-! ### Lines -/

/-- The lines of a text that do not consist of blanks. -/
def nonBlankLines (text : String) : List (List Char) :=
  (lines (· = '\n') text.toList).filter fun l ↦ !l.all isBlank

namespace Corpus

/-- Reading drops the blank lines only. The documents met so far change what a line gives, but not
whether it gives something. -/
private theorem length_readLines (root : Path) (n : Nat) (seen : List DocId)
    (ls : List (List Char)) :
    (readLines root n seen ls).length = (ls.filter fun l ↦ !l.all isBlank).length := by
  fun_induction readLines root n seen ls with
  | case1 => rfl
  | case2 n seen line rest hblank ih =>
    rw [isEmpty_trim] at hblank
    simp [ih, hblank]
  | case3 n seen line rest hblank fault hfault ih =>
    rw [isEmpty_trim] at hblank
    rw [List.length_cons, ih, List.filter_cons_of_pos (by simp [hblank]), List.length_cons]
  | case4 n seen line rest hblank id url hline hseen ih =>
    rw [isEmpty_trim] at hblank
    rw [List.length_cons, ih, List.filter_cons_of_pos (by simp [hblank]), List.length_cons]
  | case5 n seen line rest hblank id url hline hseen ih =>
    rw [isEmpty_trim] at hblank
    rw [List.length_cons, ih, List.filter_cons_of_pos (by simp [hblank]), List.length_cons]

private theorem length_entry?_add_failure? (l : List (Except Failure Entry)) :
    (l.filterMap entry?).length + (l.filterMap failure?).length = l.length := by
  induction l with
  | nil => rfl
  | cons r l ih =>
    cases r with
    | ok e =>
      show (e :: l.filterMap entry?).length + (l.filterMap failure?).length = _
      rw [List.length_cons, List.length_cons, ← ih]
      omega
    | error f =>
      show (l.filterMap entry?).length + (f :: l.filterMap failure?).length = _
      rw [List.length_cons, List.length_cons, ← ih]
      omega

/-- **Every line that is not blank gives an entry or a failure.** -/
theorem length_entries_add_failures (root : Path) (text : String) :
    (ofManifest root text).entries.length + (ofManifest root text).failures.length =
      (nonBlankLines text).length := by
  rw [nonBlankLines, ← length_readLines root 1 []]
  exact length_entry?_add_failure? (readManifest root text)

end Corpus

/-! ### Fates -/

/-- What becomes of an entry that a survey reaches. -/
inductive Fate where
  /-- Its document is indexed. -/
  | indexed
  /-- Its document cannot be read. -/
  | unreadable (fault : FileFault)
  /-- It is skipped, because the survey has been interrupted. -/
  | skipped
  deriving DecidableEq

/-- The failure that a fate of an entry adds to the report. -/
def Fate.failure? (e : Entry) : Fate → Option Failure
  | indexed => none
  | unreadable fault => some ⟨some e.id, e.path, .unreadable fault⟩
  | skipped => none

/-- This failure names the document and the file of the entry. -/
theorem Fate.names_of_failure? {e : Entry} {t : Fate} {f : Failure} (h : t.failure? e = some f) :
    f.id? = some e.id ∧ f.path = e.path := by
  cases t with
  | indexed => exact absurd h (by simp [failure?])
  | unreadable fault =>
    obtain rfl := Option.some.inj h
    exact ⟨rfl, rfl⟩
  | skipped => exact absurd h (by simp [failure?])

namespace Visit

/-- The fate of the entry that is visited. -/
def fate (v : Volume) (x : Visit) : Fate :=
  if x.isSkipped then .skipped
  else
    match v.textAt x.entry.path with
    | .ok _ => .indexed
    | .error fault => .unreadable fault

variable {v : Volume} {x : Visit}

theorem fate_eq_skipped_iff : x.fate v = .skipped ↔ x.isSkipped = true := by
  obtain ⟨e, skipped⟩ := x
  cases skipped with
  | true => simp [fate]
  | false => cases h : v.textAt e.path <;> simp [fate, h]

theorem failure?_eq (v : Volume) (x : Visit) : x.failure? v = (x.fate v).failure? x.entry := by
  obtain ⟨e, skipped⟩ := x
  cases skipped with
  | true => rfl
  | false => cases h : v.textAt e.path <;> simp [failure?, Entry.failure?, fate, Fate.failure?, h]

/-- An entry is indexed exactly if the visit reads its document. -/
theorem fate_eq_indexed_iff :
    x.fate v = .indexed ↔ ∃ text, x.document? v = some (x.entry, text) := by
  obtain ⟨e, skipped⟩ := x
  cases skipped with
  | true => simp [fate, document?]
  | false =>
    cases h : v.textAt e.path <;>
      simp [document?, Entry.document?, fate, Except.toOption, h]

theorem fst_of_document? {d : Entry × String} (h : x.document? v = some d) : d.1 = x.entry := by
  rw [document?] at h
  split at h
  · exact absurd h (by simp)
  · exact (Entry.document?_eq_some_iff.1 h).1.symm

/-- A failure of a visit names the document and the file of its entry, by which a report tells it
from the others. -/
theorem names_of_failure? {f : Failure} (h : x.failure? v = some f) :
    f.id? = some x.entry.id ∧ f.path = x.entry.path := by
  rw [failure?_eq] at h
  exact Fate.names_of_failure? h

end Visit

/-- The failures of a report that name the document and the file of an entry. -/
def Report.failuresOf (r : Report) (e : Entry) : List Failure :=
  r.failures.filter fun f ↦ f.id? = some e.id ∧ f.path = e.path

/-- Does the outcome of a survey show this fate of an entry? -/
def Survey.Shows (o : Survey) (e : Entry) : Fate → Prop
  | .indexed => e.id ∈ o.index.documents ∧ o.report.failuresOf e = []
  | .unreadable fault =>
    e.id ∉ o.index.documents ∧
      o.report.failuresOf e = [⟨some e.id, e.path, .unreadable fault⟩]
  | .skipped => e.id ∉ o.index.documents ∧ o.report.failuresOf e = []

/-- An outcome shows no other fate than the one that its documents and failures agree with. -/
theorem Survey.shows_iff {o : Survey} {e : Entry} {f : Fate}
    (hdocuments : e.id ∈ o.index.documents ↔ f = .indexed)
    (hfailures : o.report.failuresOf e = (f.failure? e).toList) (g : Fate) :
    o.Shows e g ↔ g = f := by
  cases f with
  | indexed => cases g <;> simp [Shows, hdocuments, hfailures, Fate.failure?]
  | unreadable fault =>
    cases g <;> simp [Shows, hdocuments, hfailures, Fate.failure?, eq_comm]
  | skipped => cases g <;> simp [Shows, hdocuments, hfailures, Fate.failure?]

/-! ### Addresses -/

namespace Index

variable {s : Settings} {x : Index} {ds : List (Entry × String)} {id : DocId} {url : String}

theorem source?_addDocument (d : Entry × String) :
    (x.addDocument s d).source? id = if id = d.1.id then some d.1.url else x.source? id :=
  SortedMap.find?_insert d.1.id id d.1.url x.sources

/-- Where every document has an address, and nothing else does, adding documents keeps it so. -/
theorem isSome_source?_addDocuments (s : Settings) (ds : List (Entry × String))
    (h : ∀ id, (x.source? id).isSome = true ↔ id ∈ x.documents) (id : DocId) :
    ((x.addDocuments s ds).source? id).isSome = true ↔ id ∈ (x.addDocuments s ds).documents := by
  induction ds generalizing x with
  | nil => exact h id
  | cons d ds ih =>
    refine ih fun i ↦ ?_
    rw [source?_addDocument, addDocument, documents_setSource, mem_documents_add]
    split
    · next hi => simp [hi]
    · next hi => simp [hi, h i]

/-- A document that is added has its address afterwards, unless another document with the same
identifier has another one. -/
theorem source?_addDocuments (hurl : ∀ d ∈ ds, d.1.id = id → d.1.url = url)
    (h : x.source? id = some url ∨ ∃ d ∈ ds, d.1.id = id) :
    (x.addDocuments s ds).source? id = some url := by
  induction ds generalizing x with
  | nil => simpa using h
  | cons d ds ih =>
    refine ih (fun d' hd' ↦ hurl d' (List.mem_cons_of_mem _ hd')) ?_
    rw [source?_addDocument]
    by_cases hid : id = d.1.id
    · exact .inl (by rw [if_pos hid, hurl d List.mem_cons_self hid.symm])
    · rw [if_neg hid]
      refine h.imp_right fun ⟨d', hd', hid'⟩ ↦ ?_
      rcases List.mem_cons.1 hd' with rfl | hd'
      · exact absurd hid'.symm hid
      · exact ⟨d', hd', hid'⟩

end Index

/-! ### Counts -/

namespace Tally

/-- The number of entries that were dealt with. -/
def total (t : Tally) : Nat := t.indexed + t.failures.length + t.skipped

/-- A visit deals with one entry. -/
theorem total_visit (v : Volume) (s : Settings) (t : Tally) (x : Visit) :
    (t.visit v s x).total = t.total + 1 := by
  obtain ⟨e, skipped⟩ := x
  rw [visit, record]
  cases skipped with
  | true =>
    simp only [total, skip, if_true]
    omega
  | false =>
    cases h : v.textAt e.path <;> simp only [total, read, h, Bool.false_eq_true, if_false,
      List.length_append, List.length_singleton] <;> omega

theorem total_foldl_visit (v : Volume) (s : Settings) (xs : List Visit) (t : Tally) :
    (xs.foldl (visit v s) t).total = t.total + xs.length := by
  induction xs generalizing t with
  | nil => rfl
  | cons x xs ih =>
    rw [List.foldl_cons, ih, total_visit, List.length_cons]
    omega

end Tally

/-! ### Visits of all entries -/

namespace Corpus

variable {root : Path} {text : String} {v : Volume} {s : Settings} {xs : List Visit} {x : Visit}

/-- The documents that were read, the failures of the report and the entries that were skipped make
up the lines that are not blank. -/
theorem indexed_add_failures_add_skipped
    (hxs : (xs.map Visit.entry).Perm (ofManifest root text).entries) :
    ((ofManifest root text).reportOn (tally v s xs)).indexed +
        ((ofManifest root text).reportOn (tally v s xs)).failures.length +
        (tally v s xs).skipped =
      (nonBlankLines text).length := by
  have htotal : (tally v s xs).total = xs.length := by
    rw [tally, Tally.total_foldl_visit]
    exact Nat.zero_add _
  have hlength : xs.length = (ofManifest root text).entries.length := by
    rw [← hxs.length_eq, List.length_map]
  rw [Tally.total] at htotal
  simp only [reportOn, List.length_mergeSort, List.length_append]
  rw [← length_entries_add_failures root text]
  omega

/-- The documents of the index are those of the visits that were indexed. -/
theorem mem_documents_tally {id : DocId} :
    id ∈ (tally v s xs).index.documents ↔ ∃ x ∈ xs, x.fate v = .indexed ∧ x.entry.id = id := by
  rw [tally, Tally.foldl_visit, Index.mem_documents_addDocuments]
  constructor
  · rintro (h | ⟨d, hd, rfl⟩)
    · exact absurd h Index.not_mem_documents_empty
    · obtain ⟨x, hx, hdocument⟩ := List.mem_filterMap.1 hd
      have hentry := Visit.fst_of_document? hdocument
      exact ⟨x, hx, Visit.fate_eq_indexed_iff.2 ⟨d.2, by rw [hdocument, ← hentry]⟩, by rw [hentry]⟩
  · rintro ⟨x, hx, hfate, rfl⟩
    obtain ⟨text, hdocument⟩ := Visit.fate_eq_indexed_iff.1 hfate
    exact .inr ⟨_, List.mem_filterMap.2 ⟨x, hx, hdocument⟩, rfl⟩

/-- As no two entries have one identifier, a document that is known was indexed by its own visit. -/
theorem id_mem_documents_tally_iff
    (hxs : (xs.map Visit.entry).Perm (ofManifest root text).entries) (hx : x ∈ xs) :
    x.entry.id ∈ (tally v s xs).index.documents ↔ x.fate v = .indexed := by
  rw [mem_documents_tally]
  constructor
  · rintro ⟨y, hy, hfate, hid⟩
    rwa [← List.inj_on_of_nodup_map (nodup_ids_visits hxs) hy hx hid]
  · exact fun hfate ↦ ⟨x, hx, hfate, rfl⟩

/-- The documents of the index are as many as were counted. -/
theorem documentCount_tally (hxs : (xs.map Visit.entry).Perm (ofManifest root text).entries) :
    (tally v s xs).index.documentCount = (tally v s xs).indexed := by
  have hids : ((xs.filterMap (Visit.document? v)).map fun d ↦ d.1.id).Nodup := by
    refine List.pairwise_map.2 (List.pairwise_filterMap.2 ?_)
    refine (List.pairwise_map.1 (nodup_ids_visits hxs)).imp fun {x y} hne d hd d' hd' ↦ ?_
    rwa [Visit.fst_of_document? hd, Visit.fst_of_document? hd']
  have hdocuments : (tally v s xs).index.documents.toList.Perm
      ((xs.filterMap (Visit.document? v)).map fun d ↦ d.1.id) := by
    refine (List.perm_ext_iff_of_nodup ?_ hids).2 fun id ↦ ?_
    · exact (tally v s xs).index.documents.ascending.imp Std.ne_of_lt
    · rw [← SortedSet.mem_def, tally, Tally.foldl_visit, Index.mem_documents_addDocuments,
        List.mem_map]
      exact or_iff_right Index.not_mem_documents_empty
  have hindexed : (tally v s xs).indexed = (xs.filterMap (Visit.document? v)).length := by
    rw [tally, Tally.foldl_visit]
    exact Nat.zero_add _
  rw [hindexed, ← List.length_map (fun d : Entry × String ↦ d.1.id)]
  exact hdocuments.length_eq

/-- The documents of the index, and no others, have addresses. -/
theorem keys_sources_tally (v : Volume) (s : Settings) (xs : List Visit) :
    (tally v s xs).index.sources.keys = (tally v s xs).index.documents.toList := by
  refine SortedSet.eq_of_mem_iff (SortedMap.ascending_keys _) (SortedSet.ascending _) fun id ↦ ?_
  rw [SortedMap.mem_keys_iff, tally, Tally.foldl_visit]
  refine Index.isSome_source?_addDocuments s _ (fun i ↦ ?_) id
  exact iff_of_false Bool.false_ne_true Index.not_mem_documents_empty

/-- A document that was indexed has the address of its entry. -/
theorem source?_tally (hxs : (xs.map Visit.entry).Perm (ofManifest root text).entries)
    (hx : x ∈ xs) (hfate : x.fate v = .indexed) :
    (tally v s xs).index.source? x.entry.id = some x.entry.url := by
  obtain ⟨content, hdocument⟩ := Visit.fate_eq_indexed_iff.1 hfate
  rw [tally, Tally.foldl_visit]
  refine Index.source?_addDocuments (fun d hd hid ↦ ?_)
    (.inr ⟨_, List.mem_filterMap.2 ⟨x, hx, hdocument⟩, rfl⟩)
  obtain ⟨y, hy, hd⟩ := List.mem_filterMap.1 hd
  rw [Visit.fst_of_document? hd] at hid ⊢
  rw [List.inj_on_of_nodup_map (nodup_ids_visits hxs) hy hx hid]

/-- **The report has no failure of an entry but that of its visit.** -/
theorem failuresOf_reportOn (hxs : (xs.map Visit.entry).Perm (ofManifest root text).entries)
    (hx : x ∈ xs) :
    ((ofManifest root text).reportOn (tally v s xs)).failuresOf x.entry =
      ((x.fate v).failure? x.entry).toList := by
  have hentries : ∀ y ∈ xs, y.entry ∈ (ofManifest root text).entries := fun y hy ↦
    hxs.mem_iff.1 (List.mem_map_of_mem hy)
  let isOf (f : Failure) : Bool := f.id? = some x.entry.id ∧ f.path = x.entry.path
  -- The failures of lines name the manifest, which is not the file of the entry.
  have hmanifest : (ofManifest root text).failures.filter isOf = [] := by
    refine List.filter_eq_nil_iff.2 fun f hf hof ↦ ?_
    obtain ⟨-, hpath⟩ : f.id? = some x.entry.id ∧ f.path = x.entry.path := by simpa [isOf] using hof
    rw [(cause_of_mem hf).1, path_of_mem (hentries x hx)] at hpath
    exact text_manifestPath_ne root x.entry.id (congrArg Path.text hpath)
  -- The failures of other visits name other documents.
  have hother {ys : List Visit} (hys : ∀ y ∈ ys, y.entry.id ≠ x.entry.id) :
      (ys.filterMap (Visit.failure? v)).filter isOf = [] := by
    refine List.filter_eq_nil_iff.2 fun f hf hof ↦ ?_
    obtain ⟨y, hy, hf⟩ := List.mem_filterMap.1 hf
    obtain ⟨hid, -⟩ : f.id? = some x.entry.id ∧ f.path = x.entry.path := by simpa [isOf] using hof
    rw [(Visit.names_of_failure? hf).1] at hid
    exact hys y hy (Option.some.inj hid)
  have hvisits : (xs.filterMap (Visit.failure? v)).filter isOf = (x.failure? v).toList := by
    obtain ⟨l, m, rfl⟩ := List.append_of_mem hx
    have hids := nodup_ids_visits hxs
    rw [List.map_append, List.map_cons, List.nodup_middle, List.nodup_cons, ← List.map_append,
      List.mem_map] at hids
    have hne : ∀ y ∈ l ++ m, y.entry.id ≠ x.entry.id := fun y hy hid ↦ hids.1 ⟨y, hy, hid⟩
    rw [List.filterMap_append, List.filter_append,
      hother fun y hy ↦ hne y (List.mem_append_left m hy), List.nil_append]
    have hrest := hother fun y hy ↦ hne y (List.mem_append_right l hy)
    cases hfailure : x.failure? v with
    | none => rw [List.filterMap_cons_none hfailure, hrest, Option.toList_none]
    | some f =>
      have hof : isOf f = true := by simpa [isOf] using Visit.names_of_failure? hfailure
      rw [List.filterMap_cons_some hfailure, List.filter_cons_of_pos hof, hrest,
        Option.toList_some]
  have hsorted : (((ofManifest root text).reportOn (tally v s xs)).failuresOf x.entry).Perm
      (x.failure? v).toList := by
    refine ((List.mergeSort_perm _ Failure.isOrdered).filter isOf).trans (.of_eq ?_)
    rw [List.filter_append, hmanifest, List.nil_append, ← hvisits, tally, Tally.foldl_visit]
    rfl
  rw [← Visit.failure?_eq]
  cases hfailure : x.failure? v with
  | none =>
    rw [hfailure] at hsorted
    exact hsorted.eq_nil
  | some f =>
    rw [hfailure] at hsorted
    exact List.perm_singleton.1 hsorted

end Corpus

/-! ### Outcomes -/

/-- The outcome of a survey that made the given visits accounts for every line and every entry of a
manifest. -/
structure Survey.Accounts (root : Path) (text : String) (v : Volume) (xs : List Visit)
    (o : Survey) : Prop where
  /-- Every entry is visited once. -/
  visits : (xs.map Visit.entry).Perm (Corpus.ofManifest root text).entries
  /-- Of every entry the outcome shows one fate, which is that of its visit. -/
  shows : ∀ x ∈ xs, ∀ f, o.Shows x.entry f ↔ f = x.fate v
  /-- The documents of the index are the entries that were indexed. -/
  documents : ∀ id, id ∈ o.index.documents ↔ ∃ x ∈ xs, x.fate v = .indexed ∧ x.entry.id = id
  /-- These documents, and no others, have addresses. -/
  sources : o.index.sources.keys = o.index.documents.toList
  /-- The address of a document is that of its entry. -/
  source : ∀ x ∈ xs, x.fate v = .indexed → o.index.source? x.entry.id = some x.entry.url
  /-- The report counts the documents of the index. -/
  indexed : o.report.indexed = o.index.documentCount
  /-- The report says whether an entry was skipped. -/
  cancelled : o.report.cancelled = true ↔ ∃ x ∈ xs, x.fate v = .skipped
  /-- Observers are told of every entry once, between the beginning and the end. -/
  progress : o.progress =
    .start (Corpus.ofManifest root text).entries.length ::
      (List.replicate (Corpus.ofManifest root text).entries.length .advance ++ [.finish])
  /-- If no entry was skipped, then every line that is not blank was indexed or is a failure. -/
  lines : o.report.cancelled = false →
    o.report.indexed + o.report.failures.length = (nonBlankLines text).length

namespace Corpus

/-- **The account of a divided survey**, put together from the facts about its visits. In which
order the workers made them does not matter. -/
theorem accounts_of_division {root : Path} {text : String} (v : Volume) (s : Settings)
    {d : Division} (hd : (d.visits.map Visit.entry).Perm (ofManifest root text).entries) :
    (d.survey (ofManifest root text) v s).Accounts root text v d.visits := by
  have hcancelled : ((ofManifest root text).reportOn (tally v s d.visits)).cancelled = true ↔
      ∃ x ∈ d.visits, x.fate v = .skipped := by
    rw [tally, Tally.foldl_visit]
    simp [reportOn, Tally.empty, Visit.fate_eq_skipped_iff]
  have hsurvey : d.survey (ofManifest root text) v s =
      ⟨(tally v s d.visits).index, (ofManifest root text).reportOn (tally v s d.visits),
        .start (ofManifest root text).entries.length ::
          (List.replicate (ofManifest root text).entries.length .advance ++ [.finish])⟩ := by
    rw [Division.survey, Division.tally_eq, Division.advances_eq, ← hd.length_eq, List.length_map]
  rw [hsurvey]
  refine ⟨hd, fun x hx ↦ ?_, fun _ ↦ mem_documents_tally, keys_sources_tally v s d.visits,
    fun x hx ↦ source?_tally hd hx, (documentCount_tally hd).symm, hcancelled, rfl, fun h ↦ ?_⟩
  · exact Survey.shows_iff (id_mem_documents_tally_iff hd hx) (failuresOf_reportOn hd hx)
  · have hskipped : (tally v s d.visits).skipped = 0 := by
      simpa [reportOn] using h
    have hlines := indexed_add_failures_add_skipped (v := v) (s := s) hd
    rwa [hskipped] at hlines

/-- **A survey accounts for every line and entry.** -/
theorem survey_accounts (root : Path) (text : String) (v : Volume) (s : Settings) :
    (∀ i, ((ofManifest root text).survey v s i).Accounts root text v
      ((ofManifest root text).visits i)) ∧
      ∀ d : Division, (d.visits.map Visit.entry).Perm (ofManifest root text).entries →
        (d.survey (ofManifest root text) v s).Accounts root text v d.visits := by
  refine ⟨fun i ↦ ?_, fun d hd ↦ accounts_of_division v s hd⟩
  have hvisits := List.Perm.of_eq (map_entry_visits (ofManifest root text) i)
  rw [survey_eq_share]
  exact accounts_of_division v s (d := .share _) hvisits

/-- A manifest with two bad lines. -/
def badLines : String := "1 a\n2 b\n\nx\n1 d\n3 c"

/-- Two workers, the second of which is interrupted before its last entry. The third document does
not exist. -/
def interruptedDivision : Division :=
  .join (.share [.taken ⟨3, "c", ⟨"3.txt"⟩⟩])
    (.share [.taken ⟨1, "a", ⟨"1.txt"⟩⟩, ⟨⟨2, "b", ⟨"2.txt"⟩⟩, true⟩])

/-- Some lines of this manifest are at fault, and one worker is interrupted before its last entry,
so that all fates occur. -/
theorem survey_accounts_of_interruptedDivision :
    let o := interruptedDivision.survey (ofManifest ⟨""⟩ badLines) twoPages ⟨.cyrillic, false⟩
    o.Shows ⟨1, "a", ⟨"1.txt"⟩⟩ .indexed ∧ o.Shows ⟨2, "b", ⟨"2.txt"⟩⟩ .skipped ∧
      o.Shows ⟨3, "c", ⟨"3.txt"⟩⟩ (.unreadable .notFound) ∧ o.report.cancelled = true := by
  have h := (survey_accounts ⟨""⟩ badLines twoPages ⟨.cyrillic, false⟩).2 interruptedDivision
    (by decide +kernel)
  exact ⟨(h.shows ⟨⟨1, "a", ⟨"1.txt"⟩⟩, false⟩ (by decide) _).2 (by decide +kernel),
    (h.shows ⟨⟨2, "b", ⟨"2.txt"⟩⟩, true⟩ (by decide) _).2 (by decide +kernel),
    (h.shows ⟨⟨3, "c", ⟨"3.txt"⟩⟩, false⟩ (by decide) _).2 (by decide +kernel),
    h.cancelled.2 ⟨⟨⟨2, "b", ⟨"2.txt"⟩⟩, true⟩, by decide, by decide +kernel⟩⟩

end Corpus

end Concordance
