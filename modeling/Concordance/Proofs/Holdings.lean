import Concordance.Proofs.Answer
import Concordance.Proofs.Division
import Concordance.Proofs.SessionCourse
import Concordance.Workbench

/-!
# What a workbench holds

Nothing in the type of an index ties its postings to its documents, and an answer is only as good as
that tie: a negation is the complement within the documents (`IsSound`). So every index that can
ever be held has to be covered, however it came about.

An index comes about in four ways. It grows by facts, which keep it covered; it is the index of a
survey, which is grown that way, whoever interrupts it and however it is divided; it is read from a
cache, where it is checked, whatever octets are in the file; or it is one of these handed on.
`IsCovered` says that a workbench holds nothing else. One small lemma for each way to change what is
held gives the step (`IsCovered.after`), the step gives all histories, and what an action hands out
is what it would leave behind.
-/

namespace Concordance

/-! ### Sound indexes -/

/-- An index whose answers can be relied upon. -/
structure Index.IsSound (x : Index) : Prop where
  /-- Every posting lies inside the documents. -/
  covered : x.Covered
  /-- Nothing but documents of the index answers a formula. -/
  mem_documents : ∀ f, ∀ id ∈ x.answer f, id ∈ x.documents
  /-- Every document answers a formula or its negation. -/
  union_not : ∀ f, (x.answer f).union (x.answer (.not f)) = x.documents
  /-- No document answers a formula and its negation. -/
  inter_not : ∀ f, (x.answer f).inter (x.answer (.not f)) = ∅

/-- **A formula and its negation divide the documents of a covered index.** -/
theorem Index.Covered.isSound {x : Index} (h : x.Covered) : x.IsSound := by
  have hmem : ∀ f, ∀ id ∈ x.answer f, id ∈ x.documents := fun f id hid ↦ ((mem_answer_iff h).1 hid).1
  exact ⟨h, hmem, fun f ↦ SortedSet.union_diff_of_forall (hmem f),
    fun f ↦ SortedSet.inter_diff_self (x.answer f) x.documents⟩

/-! ### Where indexes come from -/

section Sources

variable {v : Volume} {p : Path} {s : Settings} {x : Index}

/-- A record whose postings are not covered is refused as an index. -/
theorem CacheRecord.covered_of_toIndex? {r : CacheRecord} (h : r.toIndex? s = some x) :
    x.Covered := by
  rw [toIndex?] at h
  split at h
  · rw [Index.ofParts?] at h
    split at h
    · next hcovered =>
      obtain rfl := Option.some.inj h
      exact Index.isCovered_eq_true_iff.1 hcovered
    · exact absurd h (by simp)
  · exact absurd h (by simp)

/-- **Whatever is in the file, only a covered index is loaded from it.** -/
theorem Volume.covered_of_loadCache? (h : v.loadCache? p s = some x) : x.Covered := by
  obtain ⟨content, -, hindex⟩ := loadCache?_eq_some_iff.1 h
  obtain ⟨r, -, hr⟩ := Option.bind_eq_some_iff.1 hindex
  exact CacheRecord.covered_of_toIndex? hr

/-- The tally of visits only grows by facts. -/
theorem Corpus.covered_tally (v : Volume) (s : Settings) (xs : List Visit) :
    (tally v s xs).index.Covered := by
  rw [tally, Tally.foldl_visit]
  exact Index.covered_empty.addDocuments s _

/-- **A survey gives a covered index**, whoever interrupts it. -/
theorem Corpus.covered_survey (c : Corpus) (v : Volume) (s : Settings) (i : Interrupt) :
    (c.survey v s i).index.Covered := by
  rw [index_survey]
  exact covered_tally v s (c.visits i)

/-- However the visits are divided among workers, the merged index is covered. -/
theorem Division.covered_tally (v : Volume) (s : Settings) (d : Division) :
    (d.tally v s).index.Covered := by
  rw [tally_eq]
  exact Corpus.covered_tally v s d.visits

/-- A rebuild gives the index of its survey, or the empty one without a corpus. -/
theorem Supply.covered_rebuild (s : Supply) (v : Volume) :
    (Supplied.ofSurvey (s.rebuild v).2).index.Covered := by
  rw [rebuild, survey?]
  cases v.corpus? s.corpus with
  | none => exact Index.covered_empty
  | some c => exact c.covered_survey v s.settings s.interrupt

/-- **Every supply is of a covered index**, from the cache or from a survey. -/
theorem Supply.covered_provide (s : Supply) (v : Volume) : (s.provide v).2.index.Covered := by
  rw [provide]
  cases h : v.loadCache? s.cache s.settings with
  | none => exact s.covered_rebuild v
  | some x => exact Volume.covered_of_loadCache? h

namespace Session

variable {s : Session} {st : SessionState}

/-- An answer leaves the index of a session as it is, or takes another from a rebuild. -/
theorem covered_answer (h : st.index.Covered) (line : String) :
    (s.answer st (.ofText line)).1.index.Covered := by
  by_cases hcompletes : s.Completes st.volume line
  · rw [answer_of_completes hcompletes]
    exact st.volume.covered_freshIndex s.supply.corpus s.supply.settings
  · rwa [answer_of_not_completes hcompletes]

/-- The index of a session stays covered from line to line. -/
theorem covered_answerLines (h : st.index.Covered) (ls : List Octets) :
    (s.answerLines st ls).state.index.Covered := by
  induction ls generalizing st with
  | nil => exact h
  | cons line ls ih =>
    rw [answerLines]
    cases textOf? line with
    | none => exact h
    | some text => exact ih (covered_answer h text)

end Session

end Sources

/-! ### Handles -/

namespace Handles

variable {h : Handles} {x y : Index} {name other : String}

/-- A snapshot is the empty index where no handle has the name, and a current one otherwise. -/
theorem snapshot_eq_empty_or_mem (h : Handles) (name : String) :
    h.snapshot name = ∅ ∨ h.snapshot name ∈ h.current := by
  cases hi : h.positions.find? name with
  | none => exact .inl (by rw [snapshot, hi]; rfl)
  | some i =>
    rw [snapshot_of_position hi]
    exact .inr (List.get_mem _ _)

/-- What handles hold after one was made is what it was made with and what they held before. -/
theorem mem_current_make (hy : y ∈ (h.make name x).current) : y = x ∨ y ∈ h.current := by
  rw [make, List.mem_append, List.mem_singleton] at hy
  exact hy.symm

theorem mem_current_publish (hy : y ∈ (h.publish name x).current) : y = x ∨ y ∈ h.current := by
  rw [publish] at hy
  split at hy
  · exact (List.mem_or_eq_of_mem_set hy).symm
  · exact mem_current_make hy

theorem mem_current_ensure (hy : y ∈ (h.ensure name).current) : y = ∅ ∨ y ∈ h.current := by
  rw [ensure] at hy
  split at hy
  · exact .inr hy
  · exact mem_current_make hy

theorem current_share (h : Handles) (name other : String) :
    (h.share name other).current = (h.ensure name).current := by
  rw [share]
  split <;> rfl

end Handles

/-! ### Workbenches -/

namespace Workbench

variable {w : Workbench} {x : Index} {name : String}

/-- Everything that a workbench holds is covered. -/
structure IsCovered (w : Workbench) : Prop where
  /-- The named indexes are. -/
  slots : ∀ name, (w.slot name).Covered
  /-- The indexes of the handles are, those of handles without a name among them. -/
  handles : ∀ x ∈ w.handles.current, x.Covered

namespace IsCovered

theorem snapshot (h : w.IsCovered) (handle : String) : (w.handles.snapshot handle).Covered := by
  rcases w.handles.snapshot_eq_empty_or_mem handle with hempty | hmem
  · rw [hempty]
    exact Index.covered_empty
  · exact h.handles _ hmem

theorem setSlot (h : w.IsCovered) (hx : x.Covered) (name : String) :
    (w.setSlot name x).IsCovered := by
  refine ⟨fun other ↦ ?_, h.handles⟩
  rw [slot_setSlot]
  split
  · exact hx
  · exact h.slots other

/-- What happens to the files does not matter. -/
theorem setVolume (h : w.IsCovered) (v : Volume) : { w with volume := v }.IsCovered :=
  ⟨h.slots, h.handles⟩

theorem publish (h : w.IsCovered) (hx : x.Covered) (handle : String) :
    (w.publish handle x).IsCovered := by
  refine ⟨h.slots, fun y hy ↦ ?_⟩
  rcases Handles.mem_current_publish hy with rfl | hy
  · exact hx
  · exact h.handles y hy

theorem ensure (h : w.IsCovered) (handle : String) :
    { w with handles := w.handles.ensure handle }.IsCovered := by
  refine ⟨h.slots, fun y hy ↦ ?_⟩
  rcases Handles.mem_current_ensure hy with rfl | hy
  · exact Index.covered_empty
  · exact h.handles y hy

theorem share (h : w.IsCovered) (handle other : String) : (w.share handle other).IsCovered := by
  refine ⟨h.slots, fun y hy ↦ (h.ensure handle).handles y ?_⟩
  rwa [Workbench.share, Handles.current_share] at hy

end IsCovered

/-- The indexes that an action hands to whoever takes it: what is loaded, surveyed, supplied or
taken from a handle, and what the handle of a session holds before each of its lines and at the
end. -/
def returned (w : Workbench) : Action → List Index
  | .load slot s p => (w.load slot s p).2.toList
  | .survey slot root s i => (w.survey slot root s i).2.toOption.toList.map Survey.index
  | .provide slot s => [(w.provide slot s).2.index]
  | .rebuild slot s => [(w.rebuild slot s).2.index]
  | .snapshot handle _ => [w.handles.snapshot handle]
  | .converse handle s input =>
    (lines (· = 0x0a) input).inits.map fun ls ↦
      (s.answerLines ⟨w.volume, w.handles.snapshot handle⟩ ls).state.index
  | _ => []

/-- **Every action leaves nothing but covered indexes.** -/
theorem IsCovered.after (h : w.IsCovered) (a : Action) : (w.after a).IsCovered := by
  cases a with
  | add slot id terms => exact h.setSlot ((h.slots slot).add id terms) slot
  | setSource slot id url => exact h.setSlot ((h.slots slot).setSource id url) slot
  | merge slot other => exact h.setSlot ((h.slots slot).merge (h.slots other)) slot
  | save slot s p m =>
    rw [Workbench.after, save]
    split <;> exact h.setVolume _
  | load slot s p =>
    rw [Workbench.after, load]
    cases hload : w.volume.loadCache? p s with
    | none => exact h
    | some x => exact h.setSlot (Volume.covered_of_loadCache? hload) slot
  | survey slot root s i =>
    rw [Workbench.after, survey]
    cases w.corpus root with
    | error e => exact h
    | ok c => exact h.setSlot (c.covered_survey w.volume s i) slot
  | provide slot s => exact (h.setVolume _).setSlot (s.covered_provide w.volume) slot
  | rebuild slot s => exact (h.setVolume _).setSlot (s.covered_rebuild w.volume) slot
  | publish handle slot => exact h.publish (h.slots slot) handle
  | snapshot handle slot => exact (h.ensure handle).setSlot (h.snapshot handle) slot
  | share handle other => exact h.share handle other
  | converse handle s input =>
    exact (h.publish (Session.covered_answerLines (h.snapshot handle) _) handle).setVolume _
  | arrange files => exact h.setVolume _
  | remove p =>
    rw [Workbench.after, remove]
    split
    · exact h.setVolume _
    · exact h
  | prepareData e chosen => exact h.setVolume _
  | runCommand e arguments input => exact h.setVolume _

/-- **Every history leaves nothing but covered indexes.** -/
theorem IsCovered.afterAll (h : w.IsCovered) (history : List Action) :
    (w.afterAll history).IsCovered := by
  induction history generalizing w with
  | nil => exact h
  | cons a history ih => exact ih (h.after a)

/-- Every action hands out nothing but covered indexes. -/
theorem IsCovered.covered_of_mem_returned (h : w.IsCovered) {a : Action}
    (hx : x ∈ w.returned a) : x.Covered := by
  cases a with
  | load slot s p =>
    rw [returned, load] at hx
    cases hload : w.volume.loadCache? p s with
    | none => simp [hload] at hx
    | some y =>
      obtain rfl : x = y := by simpa [hload] using hx
      exact Volume.covered_of_loadCache? hload
  | survey slot root s i =>
    rw [returned, survey] at hx
    cases hcorpus : w.corpus root with
    | error e => simp [hcorpus, Except.toOption] at hx
    | ok c =>
      obtain rfl : x = (c.survey w.volume s i).index := by
        simpa [hcorpus, Except.toOption] using hx
      exact c.covered_survey w.volume s i
  | provide slot s =>
    obtain rfl := List.mem_singleton.1 hx
    exact s.covered_provide w.volume
  | rebuild slot s =>
    obtain rfl := List.mem_singleton.1 hx
    exact s.covered_rebuild w.volume
  | snapshot handle slot =>
    obtain rfl := List.mem_singleton.1 hx
    exact h.snapshot handle
  | converse handle s input =>
    obtain ⟨ls, -, rfl⟩ := List.mem_map.1 hx
    exact Session.covered_answerLines (h.snapshot handle) ls
  | add | setSource | merge | save | publish | share | arrange | remove | prepareData
    | runCommand => exact absurd hx List.not_mem_nil

/-- A workbench with files and nothing else. -/
def ofVolume (v : Volume) : Workbench := ⟨∅, ∅, v⟩

/-- A workbench begins with nothing in it, whatever files there are. -/
theorem isCovered_ofVolume (v : Volume) : (ofVolume v).IsCovered :=
  ⟨fun _ ↦ Index.covered_empty, fun _ hx ↦ absurd hx List.not_mem_nil⟩

/-- **Every index that can ever be held is sound.** Whatever files there are at first and whatever is
done, in whatever order, this is so for the named indexes, for the indexes of handles, for snapshots
and for what an action hands out next; and a survey that is divided among workers gives a sound index
in any case. -/
theorem every_holding_is_sound (v : Volume) (history : List Action) :
    (∀ slot, (((ofVolume v).afterAll history).slot slot).IsSound) ∧
      (∀ x ∈ ((ofVolume v).afterAll history).handles.current, x.IsSound) ∧
      (∀ handle, (((ofVolume v).afterAll history).handles.snapshot handle).IsSound) ∧
      (∀ a, ∀ x ∈ ((ofVolume v).afterAll history).returned a, x.IsSound) ∧
      ∀ (d : Division) (u : Volume) (s : Settings), (d.tally u s).index.IsSound := by
  have h : ((ofVolume v).afterAll history).IsCovered := (isCovered_ofVolume v).afterAll history
  refine ⟨fun slot ↦ (h.slots slot).isSound, fun x hx ↦ (h.handles x hx).isSound,
    fun handle ↦ (h.snapshot handle).isSound, fun a x hx ↦ (h.covered_of_mem_returned hx).isSound,
    fun d u s ↦ (d.covered_tally u s).isSound⟩

/-- An index with a posting outside its documents. -/
def strayIndex : Index :=
  { ((∅ : Index).add 0 ["кот"]).add 3 ["кот"] with documents := .ofList [0] }

/-- A corpus of one page, and a file that gives that index. -/
def strayVolume : Volume :=
  Volume.onePage.put ["stray.json"]
    (.file (CacheRecord.ofIndex strayIndex ⟨.cyrillic, false⟩).encode)

/-- The index of the page. -/
def pageIndex : Index := ((∅ : Index).add 1 ["кот"]).setSource 1 "a"

/-- After a session that builds a new index, the file of the stray index still cannot be loaded, and
what the session left in the cache can. -/
theorem every_holding_is_sound_of_strayVolume :
    ((ofVolume strayVolume).afterAll
        [.converse "main" Session.visitor (octetsOf ":rebuild\n")]).returned
          (.load "main" ⟨.cyrillic, false⟩ ⟨"stray.json"⟩) = [] ∧
      pageIndex ∈ ((ofVolume strayVolume).afterAll
        [.converse "main" Session.visitor (octetsOf ":rebuild\n")]).returned
          (.load "main" ⟨.cyrillic, false⟩ ⟨"index.json"⟩) ∧
      pageIndex.IsSound := by
  have hmem : pageIndex ∈ ((ofVolume strayVolume).afterAll
      [.converse "main" Session.visitor (octetsOf ":rebuild\n")]).returned
        (.load "main" ⟨.cyrillic, false⟩ ⟨"index.json"⟩) := by decide +kernel
  exact ⟨by decide +kernel, hmem, (every_holding_is_sound strayVolume _).2.2.2.1 _ _ hmem⟩

end Workbench

end Concordance
