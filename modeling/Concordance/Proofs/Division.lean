import Concordance.Proofs.ReportOrder
import Concordance.Proofs.Survey
import Concordance.Proofs.Volume.Growth
import Concordance.Supply

/-!
# Divided surveys

A survey may be divided among workers. Each takes a share of the entries, in some order, and their
tallies are merged two by two, in any grouping. `Division` is such a plan, and it may also hold
workers without any share.

Two facts make the plan irrelevant. A merger continues its second part where the first part ended
(`merge_visit`), so a division comes to the same as all its visits in a row (`tally_eq`). And visits
may be made in any order (`index_tally_of_perm`, `reportOn_tally_of_perm`), because the entries of a
manifest have distinct identifiers, and because the order of a report tells any two failures apart.
So whatever a division comes to, also if entries were skipped here and there, a survey in the order
of the manifest comes to under some interruption (`exists_survey_eq`).
-/

namespace Concordance

/-- A division of visits among workers, and the order in which their tallies are merged. -/
inductive Division where
  /-- One worker makes the visits in a row. -/
  | share (visits : List Visit)
  /-- Two divisions are carried out and their tallies merged. -/
  | join (first second : Division)

namespace Division

/-- All visits of a division. -/
def visits : Division → List Visit
  | share xs => xs
  | join d e => d.visits ++ e.visits

/-- The tally of a division. -/
def tally (v : Volume) (s : Settings) : Division → Tally
  | share xs => xs.foldl (Tally.visit v s) .empty
  | join d e => (d.tally v s).merge (e.tally v s)

end Division

/-! ### Merging tallies -/

theorem Index.merge_addDocuments (s : Settings) (x y : Index) (ds : List (Entry × String)) :
    x.merge (y.addDocuments s ds) = (x.merge y).addDocuments s ds := by
  induction ds generalizing y with
  | nil => rfl
  | cons d ds ih =>
    rw [addDocuments_cons, ih, addDocuments_cons, addDocument, addDocument, merge_setSource,
      merge_add]

namespace Tally

@[simp] theorem merge_empty (a : Tally) : a.merge .empty = a := by
  obtain ⟨x, n, k, fs⟩ := a
  simp [merge, empty]

/-- A visit of the second part of a merger is a visit of the whole. -/
theorem merge_visit (v : Volume) (s : Settings) (a b : Tally) (x : Visit) :
    a.merge (b.visit v s x) = (a.merge b).visit v s x := by
  simp [visit_eq, merge, Index.merge_addDocuments, Nat.add_assoc]

/-- By induction on the visits, a merger continues its second part. -/
theorem merge_foldl_visit (v : Volume) (s : Settings) (a b : Tally) (xs : List Visit) :
    a.merge (xs.foldl (visit v s) b) = xs.foldl (visit v s) (a.merge b) := by
  induction xs generalizing b with
  | nil => rfl
  | cons x xs ih => rw [List.foldl_cons, ih, merge_visit, List.foldl_cons]

end Tally

/-- **A division comes to the same as all its visits in a row.** -/
theorem Division.tally_eq (v : Volume) (s : Settings) (d : Division) :
    d.tally v s = Corpus.tally v s d.visits := by
  induction d with
  | share xs => rfl
  | join d e ihd ihe =>
    rw [tally, ihd, ihe, visits, Corpus.tally, Corpus.tally, Corpus.tally,
      Tally.merge_foldl_visit, Tally.merge_empty, List.foldl_append]

/-! ### The order of visits -/

/-- Documents of different entries may be added in either order. -/
theorem Index.addDocument_comm {s : Settings} {d e : Entry × String} (h : d.1.id ≠ e.1.id)
    (x : Index) :
    (x.addDocument s d).addDocument s e = (x.addDocument s e).addDocument s d := by
  unfold addDocument
  rw [add_setSource_comm, setSource_comm _ h, add_comm, add_setSource_comm]

namespace Corpus

variable {v : Volume} {s : Settings} {root : Path} {text : String} {xs ys : List Visit}

/-- **An entry is determined by its identifier.** -/
theorem eq_of_id_eq {e e' : Entry} (he : e ∈ (ofManifest root text).entries)
    (he' : e' ∈ (ofManifest root text).entries) (h : e.id = e'.id) : e = e' :=
  List.inj_on_of_nodup_map (nodup_ids root text) he he' h

/-- The index does not depend on the order of the visits. -/
theorem index_tally_of_perm (h : xs.Perm ys)
    (hxs : ∀ x ∈ xs, x.entry ∈ (ofManifest root text).entries) :
    (tally v s xs).index = (tally v s ys).index := by
  rw [tally, tally, Tally.foldl_visit, Tally.foldl_visit]
  refine (h.filterMap (Visit.document? v)).foldl_eq' (fun d hd e he x ↦ ?_) _
  have hentry {d : Entry × String} (hd : d ∈ xs.filterMap (Visit.document? v)) :
      d.1 ∈ (ofManifest root text).entries ∧ v.textAt d.1.path = .ok d.2 := by
    obtain ⟨x, hx, hd⟩ := List.mem_filterMap.1 hd
    rw [Visit.document?] at hd
    split at hd
    · exact absurd hd (by simp)
    · obtain ⟨heq, htext⟩ := Entry.document?_eq_some_iff.1 hd
      rw [← heq]
      exact ⟨hxs x hx, htext⟩
  by_cases hid : d.1.id = e.1.id
  · -- One entry has only one document.
    have hfst := eq_of_id_eq (hentry hd).1 (hentry he).1 hid
    have hsnd := (hentry hd).2
    rw [hfst, (hentry he).2, Except.ok.injEq] at hsnd
    rw [Prod.ext hfst hsnd.symm]
  · exact Index.addDocument_comm hid x

/-- All failures of a report are such as its corpus can have. -/
theorem canFail_of_mem {f : Failure}
    (hxs : ∀ x ∈ xs, x.entry ∈ (ofManifest root text).entries)
    (hf : f ∈ (ofManifest root text).failures ++ xs.filterMap (Visit.failure? v)) :
    (ofManifest root text).CanFail f := by
  rcases List.mem_append.1 hf with hf | hf
  · exact .inl hf
  · obtain ⟨x, hx, hfail⟩ := List.mem_filterMap.1 hf
    rw [Visit.failure?, Entry.failure?] at hfail
    split at hfail
    · exact absurd hfail (by simp)
    · split at hfail
      · exact absurd hfail (by simp)
      · next fault _ =>
        obtain rfl := Option.some.inj hfail
        exact .inr ⟨x.entry, hxs x hx, fault, rfl⟩

/-- The report does not depend on the order of the visits. -/
theorem reportOn_tally_of_perm (h : xs.Perm ys)
    (hxs : ∀ x ∈ xs, x.entry ∈ (ofManifest root text).entries) :
    (ofManifest root text).reportOn (tally v s xs) =
      (ofManifest root text).reportOn (tally v s ys) := by
  rw [tally, tally, Tally.foldl_visit, Tally.foldl_visit]
  have hindexed := (h.filterMap (Visit.document? v)).length_eq
  have hskipped := h.countP_eq Visit.isSkipped
  have hfailures := (h.filterMap (Visit.failure? v)).append_left (ofManifest root text).failures
  have hsorted := mergeSort_eq_of_perm hfailures fun f hf g hg ↦
    eq_of_isOrdered (canFail_of_mem hxs hf) (canFail_of_mem hxs hg)
  simp only [reportOn, Tally.empty, List.nil_append]
  rw [hindexed, hskipped, hsorted]

theorem visits_never (c : Corpus) : c.visits .never = c.entries.map Visit.taken :=
  List.ext_getElem? fun k ↦ by
    rw [visits, List.getElem?_mapIdx, List.getElem?_map]
    rfl

/-- Visits come to the same on two volumes that have the same documents. -/
theorem tally_congr {v w : Volume} (h : ∀ x ∈ xs, v.textAt x.entry.path = w.textAt x.entry.path) :
    tally v s xs = tally w s xs := by
  have hdocuments : xs.filterMap (Visit.document? v) = xs.filterMap (Visit.document? w) := by
    refine List.filterMap_congr fun x hx ↦ ?_
    rw [Visit.document?, Visit.document?, Entry.document?, Entry.document?, h x hx]
  have hfailures : xs.filterMap (Visit.failure? v) = xs.filterMap (Visit.failure? w) := by
    refine List.filterMap_congr fun x hx ↦ ?_
    rw [Visit.failure?, Visit.failure?, Entry.failure?, Entry.failure?, h x hx]
  rw [tally, tally, Tally.foldl_visit, Tally.foldl_visit, hdocuments, hfailures]

/-- A division of all entries, none of them skipped, comes to what the survey in the order of the
manifest comes to. -/
theorem tally_of_division {d : Division}
    (h : d.visits.Perm ((ofManifest root text).entries.map Visit.taken)) :
    (d.tally v s).index = (ofManifest root text).fullIndex v s ∧
      (ofManifest root text).reportOn (d.tally v s) =
        ((ofManifest root text).survey v s .never).report := by
  have hmem : ∀ x ∈ d.visits, x.entry ∈ (ofManifest root text).entries := by
    intro x hx
    obtain ⟨e, he, rfl⟩ := List.mem_map.1 (h.mem_iff.1 hx)
    exact he
  rw [Division.tally_eq, report_survey, visits_never, index_tally_of_perm h hmem,
    reportOn_tally_of_perm h hmem, ← index_survey_never, index_survey, visits_never]
  exact ⟨rfl, rfl⟩

/-- **How a survey is divided does not show.** Two surveys of the same documents, however they are
divided among workers and merged, have the index of the documents in the order of the manifest, and
the same report; and wherever these indexes are saved, the files have the same content. -/
theorem surveys_agree_of_divisions (root : Path) (text : String) (s : Settings) (v v' : Volume)
    (hsame : ∀ e ∈ (ofManifest root text).entries, v.textAt e.path = v'.textAt e.path)
    (d d' : Division)
    (hd : d.visits.Perm ((ofManifest root text).entries.map Visit.taken))
    (hd' : d'.visits.Perm ((ofManifest root text).entries.map Visit.taken)) :
    (d.tally v s).index = (ofManifest root text).fullIndex v s ∧
      (d'.tally v' s).index = (ofManifest root text).fullIndex v s ∧
      (ofManifest root text).reportOn (d.tally v s) =
        ((ofManifest root text).survey v s .never).report ∧
      (ofManifest root text).reportOn (d'.tally v' s) =
        ((ofManifest root text).survey v s .never).report ∧
      ∀ (u u' w w' : Volume) (p p' : Path) (m m' : Option Mishap),
        u.saveCache (d.tally v s).index s p m = (w, none) →
          u'.saveCache (d'.tally v' s).index s p' m' = (w', none) →
            ∃ content, w.contentAt p = .ok content ∧ w'.contentAt p' = .ok content := by
  -- The second survey might as well have been made on the first volume.
  have htally : d'.tally v' s = d'.tally v s := by
    rw [Division.tally_eq, Division.tally_eq]
    refine (tally_congr fun x hx ↦ ?_).symm
    obtain ⟨e, he, rfl⟩ := List.mem_map.1 (hd'.mem_iff.1 hx)
    exact hsame e he
  obtain ⟨hindex, hreport⟩ := tally_of_division (v := v) (s := s) hd
  obtain ⟨hindex', hreport'⟩ := tally_of_division (v := v) (s := s) hd'
  rw [htally, hindex, hindex']
  refine ⟨rfl, rfl, hreport, hreport', fun u u' w w' p p' m m' hw hw' ↦ ?_⟩
  exact ⟨_, Volume.contentAt_of_replaceFile hw, Volume.contentAt_of_replaceFile hw'⟩

/-- A volume with two documents. -/
def twoPages : Volume :=
  ((Volume.mk [] ∅).put ["1.txt"] (.file (octetsOf "кот и пёс"))).put ["2.txt"]
    (.file (octetsOf "кот"))

/-- Two workers that take the documents in the other order, after one that has nothing to do. -/
def otherOrder : Division :=
  .join (.share [])
    (.join (.share [.taken ⟨1, "a", ⟨"1.txt"⟩⟩]) (.share [.taken ⟨2, "b", ⟨"2.txt"⟩⟩]))

/-- The documents are taken in the other order by two workers, and one worker has none. -/
theorem surveys_agree_of_otherOrder :
    (otherOrder.tally twoPages ⟨.cyrillic, false⟩).index =
      (ofManifest ⟨""⟩ "2 b\n1 a").fullIndex twoPages ⟨.cyrillic, false⟩ :=
  (surveys_agree_of_divisions ⟨""⟩ "2 b\n1 a" ⟨.cyrillic, false⟩ twoPages twoPages
    (fun _ _ ↦ rfl) otherOrder (.share (((ofManifest ⟨""⟩ "2 b\n1 a").entries.map Visit.taken)))
    (by decide +kernel) (List.Perm.refl _)).1

end Corpus

/-! ### Outcomes of divisions -/

namespace Division

/-- What observers are told of the visits of a division. Workers that are at work at the same time
tell it in any order, but as they all tell the same, the order does not show. -/
def advances : Division → List ProgressEvent
  | share xs => xs.map fun _ ↦ .advance
  | join d e => d.advances ++ e.advances

/-- Observers are told of each visit, whichever worker makes it. -/
theorem advances_eq (d : Division) : d.advances = List.replicate d.visits.length .advance := by
  induction d with
  | share xs => exact List.map_const'
  | join d e ihd ihe =>
    rw [advances, ihd, ihe, visits, List.length_append, List.replicate_append_replicate]

/-- The outcome of a survey that is divided among workers. -/
def survey (c : Corpus) (v : Volume) (s : Settings) (d : Division) : Survey where
  index := (d.tally v s).index
  report := c.reportOn (d.tally v s)
  progress := .start c.entries.length :: (d.advances ++ [.finish])

end Division

namespace Corpus

variable {v : Volume} {s : Settings} {root : Path} {text : String} {xs : List Visit}

/-- A survey by itself is that of one worker, who makes all visits. -/
theorem survey_eq_share (c : Corpus) (v : Volume) (s : Settings) (i : Interrupt) :
    c.survey v s i = (Division.share (c.visits i)).survey c v s := by
  have hlength : (c.visits i).length = c.entries.length := List.length_mapIdx
  rw [survey, surveyEntries_eq, Division.survey, Division.advances_eq, Division.visits, hlength]
  rfl

/-- Whatever entries are to be skipped, there is an interruption under which a survey skips
these. -/
theorem exists_visits_eq (c : Corpus) (skips : Entry → Bool) :
    ∃ i, c.visits i = c.entries.map fun e ↦ ⟨e, skips e⟩ := by
  refine ⟨⟨fun told ↦ (c.entries[told.count .advance]?).any skips⟩, List.ext_getElem? fun k ↦ ?_⟩
  have hcount : (c.told k).count .advance = k := by
    simp [told]
  rw [visits, List.getElem?_mapIdx, List.getElem?_map]
  cases hk : c.entries[k]? with
  | none => rfl
  | some e =>
    have hraised : (c.entries[(c.told k).count .advance]?).any skips = skips e := by
      rw [hcount, hk, Option.any_some]
    exact congrArg (fun skipped ↦ some (Visit.mk e skipped)) hraised

theorem nodup_ids_visits (hxs : (xs.map Visit.entry).Perm (ofManifest root text).entries) :
    (xs.map fun x ↦ x.entry.id).Nodup := by
  have hids := ((hxs.map Entry.id).nodup_iff).2 (nodup_ids root text)
  rwa [List.map_map] at hids

/-- **Whatever a division among workers comes to, a survey in the order of the manifest comes to
under some interruption.** -/
theorem exists_survey_eq {d : Division}
    (hd : (d.visits.map Visit.entry).Perm (ofManifest root text).entries) :
    ∃ i, d.survey (ofManifest root text) v s = (ofManifest root text).survey v s i := by
  let skips (e : Entry) : Bool := d.visits.any fun x ↦ x.isSkipped && x.entry = e
  -- An entry is visited once, so its visit alone decides whether it is skipped.
  have hskips : ∀ x ∈ d.visits, skips x.entry = x.isSkipped := by
    intro x hx
    rw [Bool.eq_iff_iff, List.any_eq_true]
    constructor
    · rintro ⟨y, hy, h⟩
      obtain ⟨hskipped, hentry⟩ : y.isSkipped = true ∧ y.entry = x.entry := by simpa using h
      rwa [← List.inj_on_of_nodup_map (nodup_ids_visits hd) hy hx (congrArg Entry.id hentry)]
    · exact fun h ↦ ⟨x, hx, by simp [h]⟩
  obtain ⟨i, hi⟩ := (ofManifest root text).exists_visits_eq skips
  have hperm : d.visits.Perm ((ofManifest root text).visits i) := by
    have hsame : (d.visits.map Visit.entry).map (fun e ↦ ⟨e, skips e⟩) = d.visits := by
      rw [List.map_map]
      refine (List.map_congr_left fun x hx ↦ ?_).trans (List.map_id d.visits)
      exact congrArg (Visit.mk x.entry) (hskips x hx)
    rw [hi, ← hsame]
    exact hd.map _
  have hmem : ∀ x ∈ d.visits, x.entry ∈ (ofManifest root text).entries := fun x hx ↦
    hd.mem_iff.1 (List.mem_map_of_mem hx)
  refine ⟨i, ?_⟩
  rw [survey_eq_share, Division.survey, Division.survey, Division.tally_eq, Division.tally_eq,
    Division.advances_eq, Division.advances_eq, Division.visits, index_tally_of_perm hperm hmem,
    reportOn_tally_of_perm hperm hmem, hperm.length_eq]

end Corpus

end Concordance
