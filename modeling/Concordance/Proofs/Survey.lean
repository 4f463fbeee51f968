import Mathlib.Data.List.Basic
import Concordance.Corpus.Survey
import Concordance.Proofs.Index

/-!
# What a survey finds

A survey deals with its entries one by one, and what it makes of an entry depends on nothing but the
volume and on whether it had been interrupted by then. `Visit` is an entry together with that one
bit, and `foldl_visit` says outright what a list of visits comes to: the documents that were read
are added to the index, the others are counted or listed.

What observers are told depends only on how many entries were dealt with. So a survey is a list of
visits too, whatever interrupts it (`surveyEntries_eq`), and if no entry was skipped, then its index
is the *full index*, that of all documents that can be read (`index_of_isComplete`).
-/

namespace Concordance

/-! ### Documents of an index -/

namespace Index

/-- The index with the document of an entry, given by its text, and its address. -/
def addDocument (s : Settings) (x : Index) (d : Entry × String) : Index :=
  (x.add d.1.id (s.terms d.2)).setSource d.1.id d.1.url

/-- The index with the documents of several entries. -/
def addDocuments (s : Settings) (x : Index) (ds : List (Entry × String)) : Index :=
  ds.foldl (addDocument s) x

variable {s : Settings} {x : Index} {ds : List (Entry × String)} {id : DocId} {t : String}

@[simp] theorem addDocuments_nil (s : Settings) (x : Index) : x.addDocuments s [] = x := rfl

@[simp] theorem addDocuments_cons (s : Settings) (x : Index) (d : Entry × String)
    (ds : List (Entry × String)) :
    x.addDocuments s (d :: ds) = (x.addDocument s d).addDocuments s ds := rfl

/-- The documents that were added are known, beside those known before. -/
theorem mem_documents_addDocuments :
    id ∈ (x.addDocuments s ds).documents ↔ id ∈ x.documents ∨ ∃ d ∈ ds, d.1.id = id := by
  induction ds generalizing x with
  | nil => simp
  | cons d ds ih =>
    have hd : id ∈ (x.addDocument s d).documents ↔ id ∈ x.documents ∨ d.1.id = id := by
      rw [addDocument, documents_setSource, mem_documents_add, or_comm, eq_comm]
    rw [addDocuments_cons, ih, hd, or_assoc]
    simp

/-- And each occurs under the terms of its text, as the settings give them. -/
theorem mem_posting_addDocuments :
    id ∈ (x.addDocuments s ds).posting t ↔
      id ∈ x.posting t ∨ ∃ d ∈ ds, d.1.id = id ∧ t ∈ s.terms d.2 := by
  induction ds generalizing x with
  | nil => simp
  | cons d ds ih =>
    have hd : id ∈ (x.addDocument s d).posting t ↔
        id ∈ x.posting t ∨ d.1.id = id ∧ t ∈ s.terms d.2 := by
      rw [addDocument, posting_setSource, mem_posting_add, or_comm, eq_comm]
    rw [addDocuments_cons, ih, hd, or_assoc]
    simp

theorem Covered.addDocuments (h : x.Covered) (s : Settings) (ds : List (Entry × String)) :
    (x.addDocuments s ds).Covered := by
  induction ds generalizing x with
  | nil => exact h
  | cons d ds ih => exact ih ((h.add d.1.id (s.terms d.2)).setSource d.1.id d.1.url)

end Index

/-! ### Entries and visits -/

namespace Entry

/-- The document of an entry, if it can be read. -/
def document? (v : Volume) (e : Entry) : Option (Entry × String) :=
  (v.textAt e.path).toOption.map (e, ·)

/-- The failure to read the document of an entry, if it cannot be read. -/
def failure? (v : Volume) (e : Entry) : Option Failure :=
  match v.textAt e.path with
  | .ok _ => none
  | .error fault => some ⟨some e.id, e.path, .unreadable fault⟩

/-- A document is read exactly if its file holds a text. -/
theorem document?_eq_some_iff {v : Volume} {e : Entry} {d : Entry × String} :
    e.document? v = some d ↔ e = d.1 ∧ v.textAt e.path = .ok d.2 := by
  obtain ⟨e', text⟩ := d
  rw [document?]
  cases v.textAt e.path with
  | error fault => simp [Except.toOption]
  | ok text' => simp [Except.toOption]

end Entry

/-- An entry that a survey reached. -/
structure Visit where
  /-- The entry. -/
  entry : Entry
  /-- Had the survey been interrupted by then? -/
  isSkipped : Bool
  deriving DecidableEq

namespace Visit

/-- A visit of a survey that had not been interrupted. -/
def taken (e : Entry) : Visit := ⟨e, false⟩

/-- The document that a visit reads. -/
def document? (v : Volume) (x : Visit) : Option (Entry × String) :=
  if x.isSkipped then none else x.entry.document? v

/-- The failure that a visit meets. -/
def failure? (v : Volume) (x : Visit) : Option Failure :=
  if x.isSkipped then none else x.entry.failure? v

end Visit

namespace Tally

/-- The tally after a visit. -/
def visit (v : Volume) (s : Settings) (t : Tally) (x : Visit) : Tally :=
  t.record v s x.isSkipped x.entry

/-- **What one visit comes to**: its document is added, its failure is listed, or it is counted as
skipped. -/
theorem visit_eq (v : Volume) (s : Settings) (t : Tally) (x : Visit) :
    t.visit v s x =
      ⟨t.index.addDocuments s (x.document? v).toList,
        t.indexed + (x.document? v).toList.length,
        t.skipped + (if x.isSkipped then 1 else 0), t.failures ++ (x.failure? v).toList⟩ := by
  obtain ⟨e, skipped⟩ := x
  rw [visit, record, Visit.document?, Visit.failure?]
  cases skipped with
  | true => simp [skip]
  | false =>
    rw [read, Entry.document?, Entry.failure?]
    cases v.textAt e.path with
    | error fault => simp [Except.toOption]
    | ok text => simp [Except.toOption, Index.addDocument]

/-- **What a list of visits comes to.** -/
theorem foldl_visit (v : Volume) (s : Settings) (xs : List Visit) (t : Tally) :
    xs.foldl (visit v s) t =
      ⟨t.index.addDocuments s (xs.filterMap (Visit.document? v)),
        t.indexed + (xs.filterMap (Visit.document? v)).length,
        t.skipped + xs.countP Visit.isSkipped,
        t.failures ++ xs.filterMap (Visit.failure? v)⟩ := by
  induction xs generalizing t with
  | nil => simp
  | cons x xs ih =>
    rw [List.foldl_cons, ih, visit_eq]
    have hcount : (x :: xs).countP Visit.isSkipped =
        (if x.isSkipped then 1 else 0) + xs.countP Visit.isSkipped := by
      rw [List.countP_cons, Nat.add_comm]
    have hdocuments : (x :: xs).filterMap (Visit.document? v) =
        (x.document? v).toList ++ xs.filterMap (Visit.document? v) := by
      cases h : x.document? v <;> simp [h]
    have hfailures : (x :: xs).filterMap (Visit.failure? v) =
        (x.failure? v).toList ++ xs.filterMap (Visit.failure? v) := by
      cases h : x.failure? v <;> simp [h]
    rw [hcount, hdocuments, hfailures, List.length_append, List.append_assoc, Nat.add_assoc,
      Nat.add_assoc, Index.addDocuments, Index.addDocuments, Index.addDocuments,
      List.foldl_append]

end Tally

/-! ### Surveys -/

namespace Corpus

variable {c : Corpus} {v w : Volume} {s : Settings} {i : Interrupt}

/-- What observers have been told when a number of entries was dealt with. -/
def told (c : Corpus) (n : Nat) : List ProgressEvent :=
  .start c.entries.length :: List.replicate n .advance

/-- The visits of a survey. -/
def visits (c : Corpus) (i : Interrupt) : List Visit :=
  c.entries.mapIdx fun k e ↦ ⟨e, i.isRaised (c.told k)⟩

/-- A survey visits the entries of its corpus in their order, each of them once. -/
@[simp] theorem map_entry_visits (c : Corpus) (i : Interrupt) :
    (c.visits i).map Visit.entry = c.entries := by
  refine List.ext_getElem? fun k ↦ ?_
  rw [visits, List.getElem?_map, List.getElem?_mapIdx, Option.map_map]
  exact Option.map_id'

/-- The tally of visits, in a row. -/
def tally (v : Volume) (s : Settings) (xs : List Visit) : Tally :=
  xs.foldl (Tally.visit v s) .empty

/-- The invariant of the survey's loop, which deals with the rest of the entries after it has told
observers of `k` of them. -/
private theorem foldl_surveyEntry (c : Corpus) (v : Volume) (s : Settings) (i : Interrupt)
    (es : List Entry) (k : Nat) (t : Tally) :
    es.foldl (surveyEntry v s i) (t, c.told k) =
      ((es.mapIdx fun j e ↦ ⟨e, i.isRaised (c.told (k + j))⟩).foldl (Tally.visit v s) t,
        c.told (k + es.length)) := by
  induction es generalizing k t with
  | nil => rfl
  | cons e es ih =>
    have htold : c.told k ++ [.advance] = c.told (k + 1) := by
      rw [told, told, List.cons_append, List.replicate_succ']
    rw [List.foldl_cons, surveyEntry, htold, ih, List.mapIdx_cons, List.foldl_cons,
      List.length_cons]
    -- The visits are counted from the beginning of the survey, not of the rest of it.
    have hshift (j : Nat) : k + 1 + j = k + (j + 1) := by omega
    simp only [hshift]
    rfl

/-- **A survey is a list of visits**, whatever interrupts it. -/
theorem surveyEntries_eq (c : Corpus) (v : Volume) (s : Settings) (i : Interrupt) :
    c.surveyEntries v s i = (tally v s (c.visits i), c.told c.entries.length) := by
  have h := foldl_surveyEntry c v s i c.entries 0 .empty
  simp only [Nat.zero_add] at h
  exact h

theorem index_survey (c : Corpus) (v : Volume) (s : Settings) (i : Interrupt) :
    (c.survey v s i).index = (tally v s (c.visits i)).index := by
  rw [survey, surveyEntries_eq]

theorem report_survey (c : Corpus) (v : Volume) (s : Settings) (i : Interrupt) :
    (c.survey v s i).report = c.reportOn (tally v s (c.visits i)) := by
  rw [survey, surveyEntries_eq]

/-! ### The full index -/

/-- The documents of a corpus that can be read. -/
def readable (c : Corpus) (v : Volume) : List (Entry × String) :=
  c.entries.filterMap (Entry.document? v)

/-- The index of all documents that can be read. -/
def fullIndex (c : Corpus) (v : Volume) (s : Settings) : Index :=
  (∅ : Index).addDocuments s (c.readable v)

/-- A document that can be read is an entry with the text of its file. -/
theorem mem_readable {d : Entry × String} :
    d ∈ c.readable v ↔ d.1 ∈ c.entries ∧ v.textAt d.1.path = .ok d.2 := by
  rw [readable, List.mem_filterMap]
  constructor
  · rintro ⟨e, he, hd⟩
    obtain ⟨rfl, htext⟩ := Entry.document?_eq_some_iff.1 hd
    exact ⟨he, htext⟩
  · rintro ⟨he, htext⟩
    exact ⟨d.1, he, Entry.document?_eq_some_iff.2 ⟨rfl, htext⟩⟩

/-- The full index was grown by documents alone. -/
theorem covered_fullIndex (c : Corpus) (v : Volume) (s : Settings) : (c.fullIndex v s).Covered :=
  Index.covered_empty.addDocuments s (c.readable v)

/-- **The full index knows the documents that can be read, and no others.** -/
theorem mem_documents_fullIndex {id : DocId} :
    id ∈ (c.fullIndex v s).documents ↔
      ∃ e ∈ c.entries, e.id = id ∧ ∃ text, v.textAt e.path = .ok text := by
  rw [fullIndex, Index.mem_documents_addDocuments]
  constructor
  · rintro (h | ⟨d, hd, rfl⟩)
    · exact absurd h Index.not_mem_documents_empty
    · obtain ⟨he, htext⟩ := mem_readable.1 hd
      exact ⟨d.1, he, rfl, d.2, htext⟩
  · rintro ⟨e, he, rfl, text, htext⟩
    exact .inr ⟨(e, text), mem_readable.2 ⟨he, htext⟩, rfl⟩

/-- **And it has each of them under the terms of its text.** -/
theorem mem_posting_fullIndex {id : DocId} {t : String} :
    id ∈ (c.fullIndex v s).posting t ↔
      ∃ e ∈ c.entries, e.id = id ∧ ∃ text, v.textAt e.path = .ok text ∧ t ∈ s.terms text := by
  rw [fullIndex, Index.mem_posting_addDocuments]
  constructor
  · rintro (h | ⟨d, hd, rfl, ht⟩)
    · exact absurd h Index.not_mem_posting_empty
    · obtain ⟨he, htext⟩ := mem_readable.1 hd
      exact ⟨d.1, he, rfl, d.2, htext, ht⟩
  · rintro ⟨e, he, rfl, text, htext, ht⟩
    exact .inr ⟨(e, text), mem_readable.2 ⟨he, htext⟩, rfl, ht⟩

/-- The full index depends on the volume only through the texts of the documents. -/
theorem fullIndex_congr (h : ∀ e ∈ c.entries, ∀ text, v.textAt e.path = .ok text ↔
    w.textAt e.path = .ok text) (s : Settings) : c.fullIndex v s = c.fullIndex w s := by
  have hreadable : c.readable v = c.readable w := by
    refine List.filterMap_congr fun e he ↦ Option.ext fun d ↦ ?_
    rw [Entry.document?_eq_some_iff, Entry.document?_eq_some_iff, h e he]
  rw [fullIndex, fullIndex, hreadable]

/-- Visits that skip nothing read the documents of their entries. -/
private theorem filterMap_document?_eq {xs : List Visit} (h : ∀ x ∈ xs, x.isSkipped = false) :
    xs.filterMap (Visit.document? v) = (xs.map Visit.entry).filterMap (Entry.document? v) := by
  rw [List.filterMap_map]
  refine List.filterMap_congr fun x hx ↦ ?_
  rw [Visit.document?, h x hx]
  rfl

/-- The index of visits that skip no entry of a corpus is the full index. -/
theorem index_tally {xs : List Visit} (hxs : xs.map Visit.entry = c.entries)
    (h : ∀ x ∈ xs, x.isSkipped = false) : (tally v s xs).index = c.fullIndex v s := by
  rw [tally, Tally.foldl_visit, filterMap_document?_eq h, hxs]
  rfl

/-- A report is complete exactly if no entry was skipped. -/
theorem isComplete_iff {xs : List Visit} :
    (c.reportOn (tally v s xs)).isComplete = true ↔ ∀ x ∈ xs, x.isSkipped = false := by
  rw [tally, Tally.foldl_visit]
  simp [Report.isComplete, reportOn, Tally.empty]

/-- **The index of a complete survey is the full index.** -/
theorem index_of_isComplete (h : (c.survey v s i).report.isComplete = true) :
    (c.survey v s i).index = c.fullIndex v s := by
  rw [report_survey] at h
  rw [index_survey]
  exact index_tally (map_entry_visits c i) (isComplete_iff.1 h)

/-- A survey that nobody interrupts is complete. -/
theorem isComplete_of_forall (h : ∀ told, i.isRaised told = false) :
    (c.survey v s i).report.isComplete = true := by
  rw [report_survey, isComplete_iff]
  intro x hx
  obtain ⟨k, hk, rfl⟩ := List.mem_mapIdx.1 hx
  exact h (c.told k)

/-- Where nobody interrupts, the full index is what a survey gives. -/
theorem index_survey_never (c : Corpus) (v : Volume) (s : Settings) :
    (c.survey v s .never).index = c.fullIndex v s :=
  index_of_isComplete (isComplete_of_forall fun _ ↦ rfl)

end Corpus

end Concordance
