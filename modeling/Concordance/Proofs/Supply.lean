import Concordance.Proofs.CacheRecord
import Concordance.Proofs.CorpusGrowth
import Concordance.Supply

/-!
# Supply through a cache

Indexes are asked for again and again, under changing settings, while surveys are interrupted and
caches fail to be saved. What is supplied is nevertheless what a survey of the corpus would give,
because of an invariant of the volume, `Faithful`: it has only grown, by directories and by the
files of the cache, and whatever file stands in the place of the cache holds, under any settings,
nothing but the full index of the corpus. Every request keeps it (`Faithful.perform`).

The invariant is about the place of the cache and not about its path. A path that leads through a
missing directory has nothing to load, and still leads to whatever is in its place once a failed
attempt to save has made the directory. So the file in that place must be no cache at the beginning
either; without that, a cache of another corpus may come to light.
-/

namespace Concordance

/-- The index of a survey that nobody interrupts, or the empty one if there is no corpus. -/
def Volume.freshIndex (v : Volume) (root : Path) (s : Settings) : Index :=
  (v.corpus? root).elim ∅ fun c ↦ (c.survey v s .never).index

/-- A request for an index. -/
structure SupplyRequest where
  /-- Must the corpus be surveyed, whatever is in the cache? -/
  isRebuild : Bool
  /-- The settings under which documents are read. -/
  settings : Settings
  /-- When a survey is interrupted. -/
  interrupt : Interrupt
  /-- What goes wrong while the cache is saved, if anything does. -/
  mishap : Option Mishap

namespace SupplyRequest

/-- Where the index of a request comes from. -/
def supply (r : SupplyRequest) (root cache : Path) : Supply :=
  ⟨root, cache, r.settings, r.interrupt, r.mishap⟩

/-- The volume after a request, and what is supplied. -/
def perform (r : SupplyRequest) (root cache : Path) (v : Volume) : Volume × Supplied :=
  if r.isRebuild then
    (((r.supply root cache).rebuild v).1, .ofSurvey ((r.supply root cache).rebuild v).2)
  else (r.supply root cache).provide v

/-- The volume after several requests in a row. -/
def performAll (root cache : Path) (rs : List SupplyRequest) (v : Volume) : Volume :=
  rs.foldl (fun v r ↦ (r.perform root cache v).1) v

end SupplyRequest

namespace Volume

variable {u v w : Volume} {root cache : Path} {c : Corpus} {s : Settings} {x : Index}

/-- The files of the corpus are neither the cache nor its sibling. -/
def IsApart (v : Volume) (root cache : Path) : Prop :=
  ∀ c, v.corpus? root = some c → ∀ p ∈ Corpus.manifestPath root :: c.entries.map Entry.path,
    p.place v.here ≠ cache.sibling.place v.here ∧ p.place v.here ≠ cache.place v.here

/-- The places that saving a cache may write. -/
def IsCachePlace (v : Volume) (cache : Path) (q : Place) : Prop :=
  q = cache.sibling.place v.here ∨ q = cache.place v.here

/-- What requests make of a volume `v` with a corpus: a volume that has only grown, and on which the
file in the place of the cache holds nothing but full indexes of the corpus. -/
structure Faithful (v : Volume) (root cache : Path) (w : Volume) : Prop where
  /-- Nothing but the cache was written. -/
  grown : v.Grown (cache.IsHolder v.here) (v.IsCachePlace cache) w
  /-- Without a corpus nothing was done at all. -/
  eq_of_unavailable : v.corpus? root = none → w = v
  /-- What is in the place of the cache is fresh, if it can be used. -/
  fresh : ∀ parent name, cache.target v.here = .entry parent name false →
    ∀ content, w.node? (parent ++ [name]) = some (.file content) →
      ∀ s x, CacheRecord.indexOf? content s = some x → x = v.freshIndex root s

theorem freshIndex_eq (h : v.corpus? root = some c) (s : Settings) :
    v.freshIndex root s = c.fullIndex v s := by
  rw [freshIndex, h]
  exact Corpus.index_survey_never c v s

theorem covered_freshIndex (v : Volume) (root : Path) (s : Settings) :
    (v.freshIndex root s).Covered := by
  cases h : v.corpus? root with
  | none =>
    rw [freshIndex, h]
    exact Index.covered_empty
  | some c =>
    rw [freshIndex_eq h]
    exact Corpus.covered_fullIndex c v s

/-- A volume on which nothing can be loaded, and on which nothing that could be loaded comes to
light when directories are made, is faithful. -/
theorem faithful_of_nothing_cached (hload : ∀ s, v.loadCache? cache s = none)
    (hplace : (∃ t, v.locate cache = .ok t) ∨
      ∀ content, v.node? (cache.place v.here) = some (.file content) →
        ∀ s, CacheRecord.indexOf? content s = none) :
    v.Faithful root cache v := by
  refine ⟨.refl v, fun _ ↦ rfl, fun parent name htarget content hnode s x hx ↦ ?_⟩
  rcases hplace with ⟨t, ht⟩ | hnone
  · -- The path leads to the file, so the file would have been loaded.
    have heq := eq_target_of_locate ht
    rw [htarget] at heq
    subst heq
    have hcontent := contentAt_eq_ok_iff.2 ⟨parent, name, ht, hnode⟩
    have hsome := loadCache?_eq_some_iff.2 ⟨content, hcontent, hx⟩
    rw [hload s] at hsome
    exact absurd hsome (by simp)
  · have hnode' : v.node? (cache.place v.here) = some (.file content) := by
      rw [Path.place, htarget]
      exact hnode
    rw [hnone content hnode' s] at hx
    exact absurd hx (by simp)

namespace Faithful

/-- Whatever is loaded is fresh. -/
theorem eq_freshIndex_of_loadCache? (h : v.Faithful root cache w)
    (hx : w.loadCache? cache s = some x) : x = v.freshIndex root s := by
  obtain ⟨content, hcontent, hx⟩ := loadCache?_eq_some_iff.1 hx
  obtain ⟨parent, name, hloc, hnode⟩ := contentAt_eq_ok_iff.1 hcontent
  have htarget : cache.target v.here = .entry parent name false := by
    rw [← h.grown.here, ← eq_target_of_locate hloc]
  exact h.fresh parent name htarget content hnode s x hx

/-- On a faithful volume the corpus is what it was at the beginning, as its manifest is in another
place than the cache. -/
theorem corpus? (h : v.Faithful root cache w) (hapart : v.IsApart root cache)
    (hc : v.corpus? root = some c) : w.corpus? root = some c := by
  refine corpus?_of_grown h.grown ?_ hc
  obtain ⟨hsibling, hcache⟩ := hapart c hc _ List.mem_cons_self
  exact fun hwritten ↦ hwritten.elim hsibling hcache

/-- And so is its full index, under all settings. -/
theorem fullIndex (h : v.Faithful root cache w) (hapart : v.IsApart root cache)
    (hc : v.corpus? root = some c) (s : Settings) : c.fullIndex w s = v.freshIndex root s := by
  rw [freshIndex_eq hc]
  refine fullIndex_of_grown h.grown hc (fun e he ↦ ?_) s
  obtain ⟨hsibling, hcache⟩ := hapart c hc e.path
    (List.mem_cons_of_mem _ (List.mem_map.2 ⟨e, he, rfl⟩))
  exact fun hwritten ↦ hwritten.elim hsibling hcache

/-- The corpus gives the same indexes at any time. -/
theorem freshIndex (h : v.Faithful root cache w) (hapart : v.IsApart root cache) (s : Settings) :
    w.freshIndex root s = v.freshIndex root s := by
  cases hc : v.corpus? root with
  | none => rw [h.eq_of_unavailable hc]
  | some c => rw [freshIndex_eq (h.corpus? hapart hc), h.fullIndex hapart hc]

/-- **Saving a fresh index keeps the cache faithful**, whether or not it succeeds. -/
theorem saveCache (h : v.Faithful root cache w) (hc : v.corpus? root = some c) (s : Settings)
    (m : Option Mishap) :
    v.Faithful root cache (w.saveCache (v.freshIndex root s) s cache m).1 := by
  obtain ⟨u, e, hsave⟩ : ∃ u e, w.saveCache (v.freshIndex root s) s cache m = (u, e) :=
    ⟨_, _, rfl⟩
  have hunavailable : v.corpus? root = none → u = v := fun hnone ↦ by
    rw [hc] at hnone
    exact absurd hnone (by simp)
  rw [hsave]
  rw [Volume.saveCache] at hsave
  cases e with
  | some e =>
    have hgrown := grown_of_replaceFile_error hsave
    rw [h.grown.here] at hgrown
    refine ⟨h.grown.trans (hgrown.mono_written fun _ h ↦ .inl h), hunavailable, ?_⟩
    -- The cache itself was not touched.
    intro parent name htarget content hnode
    have hne := Path.place_sibling_ne htarget
    rw [Path.place, Path.place, htarget] at hne
    exact h.fresh parent name htarget content (hgrown.file_of_file hne.symm hnode)
  | none =>
    have hgrown := grown_of_replaceFile hsave
    rw [h.grown.here] at hgrown
    refine ⟨h.grown.trans hgrown, hunavailable, ?_⟩
    -- The cache holds the document of the fresh index, which is no use under other settings.
    intro parent name htarget content hnode s' x hx
    obtain ⟨parent', name', hloc, hnode'⟩ := contentAt_eq_ok_iff.1 (contentAt_of_replaceFile hsave)
    have htarget' := eq_target_of_locate hloc
    rw [hgrown.here, h.grown.here, htarget] at htarget'
    cases htarget'
    rw [hnode'] at hnode
    cases hnode
    rw [CacheRecord.indexOf?_encode (covered_freshIndex v root s)] at hx
    split at hx
    · next hs =>
      obtain rfl := Option.some.inj hx
      rw [hs]
    · exact absurd hx (by simp)

/-- A survey of the corpus keeps the cache faithful and, if nobody interrupts it, supplies the fresh
index. -/
theorem rebuild (h : v.Faithful root cache w) (hapart : v.IsApart root cache) (r : SupplyRequest) :
    v.Faithful root cache ((r.supply root cache).rebuild w).1 ∧
      ((∀ told, r.interrupt.isRaised told = false) →
        (Supplied.ofSurvey ((r.supply root cache).rebuild w).2).index =
          v.freshIndex root r.settings) := by
  rw [Supply.rebuild, Supply.survey?]
  cases hc : v.corpus? root with
  | none =>
    -- Without a corpus nothing has happened yet, and nothing happens now.
    have hw := h.eq_of_unavailable hc
    subst hw
    simp only [SupplyRequest.supply, hc, Option.map_none]
    refine ⟨h, fun _ ↦ ?_⟩
    rw [Volume.freshIndex, hc]
    rfl
  | some c =>
    simp only [SupplyRequest.supply, h.corpus? hapart hc, Option.map_some]
    have hindex : (c.survey w r.settings r.interrupt).report.isComplete = true →
        (c.survey w r.settings r.interrupt).index = v.freshIndex root r.settings := by
      intro hcomplete
      rw [Corpus.index_of_isComplete hcomplete, h.fullIndex hapart hc]
    constructor
    · rw [Supply.keep]
      split
      · next hcomplete =>
        rw [hindex hcomplete]
        exact h.saveCache hc r.settings r.mishap
      · exact h
    · intro hraised
      exact hindex (Corpus.isComplete_of_forall hraised)

/-- **A request keeps the cache faithful** and, if nobody interrupts it, is supplied with the fresh
index. -/
theorem perform (h : v.Faithful root cache w) (hapart : v.IsApart root cache) (r : SupplyRequest) :
    v.Faithful root cache (r.perform root cache w).1 ∧
      ((∀ told, r.interrupt.isRaised told = false) →
        (r.perform root cache w).2.index = v.freshIndex root r.settings) := by
  rw [SupplyRequest.perform]
  split
  · exact h.rebuild hapart r
  · rw [Supply.provide]
    cases hload : w.loadCache? cache r.settings with
    | some x =>
      simp only [SupplyRequest.supply, hload]
      exact ⟨h, fun _ ↦ h.eq_freshIndex_of_loadCache? hload⟩
    | none =>
      simp only [SupplyRequest.supply, hload]
      exact h.rebuild hapart r

/-- **By induction on the requests, a volume stays faithful.** -/
theorem performAll (h : v.Faithful root cache w) (hapart : v.IsApart root cache)
    (rs : List SupplyRequest) :
    v.Faithful root cache (SupplyRequest.performAll root cache rs w) := by
  induction rs generalizing w with
  | nil => exact h
  | cons r rs ih => exact ih (h.perform hapart r).1

end Faithful

/-- **A cache never changes what is supplied.** Whatever requests were made before, with whatever
settings, interruptions and mishaps, a request that nobody interrupts is supplied with the index of
a fresh survey under its own settings, and whatever the cache has to load at that time is the index
of a fresh survey under the settings it is loaded for. At the beginning there must be nothing to
load, and what is in the place of the cache, if its path cannot be followed yet, must be no
cache. -/
theorem supply_through_cache (v : Volume) (root cache : Path)
    (hload : ∀ s, v.loadCache? cache s = none)
    (hplace : (∃ t, v.locate cache = .ok t) ∨
      ∀ content, v.node? (cache.place v.here) = some (.file content) →
        ∀ s, CacheRecord.indexOf? content s = none)
    (hapart : v.IsApart root cache) (rs : List SupplyRequest) :
    (∀ r : SupplyRequest, (∀ told, r.interrupt.isRaised told = false) →
      (r.perform root cache (SupplyRequest.performAll root cache rs v)).2.index =
        v.freshIndex root r.settings) ∧
      (∀ s x, (SupplyRequest.performAll root cache rs v).loadCache? cache s = some x →
        x = v.freshIndex root s) ∧
      ∀ s, (SupplyRequest.performAll root cache rs v).freshIndex root s = v.freshIndex root s := by
  have hfaithful := (faithful_of_nothing_cached hload hplace).performAll hapart rs
  refine ⟨fun r hraised ↦ (hfaithful.perform hapart r).2 hraised, fun s x hx ↦ ?_, fun s ↦ ?_⟩
  · exact hfaithful.eq_freshIndex_of_loadCache? hx
  · exact hfaithful.freshIndex hapart s

/-- A corpus is apart from the cache if its manifest and its documents are. -/
theorem isApart_of_corpus? (hc : v.corpus? root = some c)
    (h : ∀ p ∈ Corpus.manifestPath root :: c.entries.map Entry.path,
      p.place v.here ≠ cache.sibling.place v.here ∧ p.place v.here ≠ cache.place v.here) :
    v.IsApart root cache := by
  intro c' hc'
  rw [hc] at hc'
  obtain rfl := Option.some.inj hc'
  exact h

/-- A volume with a corpus of one page. -/
def onePage : Volume :=
  (((Volume.mk [] ∅).put ["Pages"] .directory).put ["Pages", "index.txt"]
    (.file (octetsOf "1 a"))).put ["Pages", "1.txt"] (.file (octetsOf "кот"))

/-- A request for terms of the Cyrillic alphabet that nobody interrupts. -/
def cyrillicRequest : SupplyRequest :=
  ⟨false, ⟨.cyrillic, false⟩, .never, none⟩

/-- After a survey under other settings, one that was interrupted and one that could not be saved,
the index supplied is that of the page. -/
theorem supply_through_cache_of_onePage :
    (cyrillicRequest.perform ⟨"Pages"⟩ ⟨"index.json"⟩
      (SupplyRequest.performAll ⟨"Pages"⟩ ⟨"index.json"⟩
        [⟨true, ⟨.latin, true⟩, .never, none⟩, ⟨true, ⟨.cyrillic, false⟩, .always, none⟩,
          ⟨false, ⟨.cyrillic, false⟩, .never, some .renaming⟩] onePage)).2.index =
      onePage.freshIndex ⟨"Pages"⟩ ⟨.cyrillic, false⟩ := by
  have hload (s : Settings) : onePage.loadCache? ⟨"index.json"⟩ s = none := by
    obtain ⟨a, b⟩ := s
    cases a <;> cases b <;> decide +kernel
  have hlocate : onePage.locate ⟨"index.json"⟩ = .ok (.entry [] "index.json" false) := by
    decide +kernel
  have hcorpus : onePage.corpus? ⟨"Pages"⟩ =
      some ⟨⟨"Pages"⟩, [⟨1, "a", ⟨"Pages/1.txt"⟩⟩], []⟩ := by decide +kernel
  exact (supply_through_cache onePage ⟨"Pages"⟩ ⟨"index.json"⟩ hload (.inl ⟨_, hlocate⟩)
    (isApart_of_corpus? hcorpus (by decide +kernel)) _).1 cyrillicRequest fun _ ↦ rfl

/-- A volume with an empty corpus, and with the cache of another one, whose sibling is in the
way. -/
def hiddenCache : Volume :=
  ((((Volume.mk [] ∅).put ["Pages"] .directory).put ["Pages", "index.txt"] (.file [])).put
    ["index.json"]
    (.file (CacheRecord.ofIndex ((∅ : Index).add 7 []) ⟨.cyrillic, false⟩).encode)).put
    ["index.json.tmp"] .directory

/-- The directory `x` is missing, so there is nothing to load through it. The first request makes
it, cannot save, and leaves a foreign cache behind for the second. -/
theorem foreign_cache_comes_to_light :
    (∀ s, hiddenCache.loadCache? ⟨"x/../index.json"⟩ s = none) ∧
      hiddenCache.IsApart ⟨"Pages"⟩ ⟨"x/../index.json"⟩ ∧
      (∀ q, Path.IsHolder ⟨"x/../index.json"⟩ hiddenCache.here q →
        q ≠ (Corpus.manifestPath ⟨"Pages"⟩).place hiddenCache.here) ∧
      (∀ told, cyrillicRequest.interrupt.isRaised told = false) ∧
      (cyrillicRequest.perform ⟨"Pages"⟩ ⟨"x/../index.json"⟩
        (SupplyRequest.performAll ⟨"Pages"⟩ ⟨"x/../index.json"⟩ [cyrillicRequest]
          hiddenCache)).2.index ≠
        hiddenCache.freshIndex ⟨"Pages"⟩ cyrillicRequest.settings := by
  have hcorpus : hiddenCache.corpus? ⟨"Pages"⟩ = some ⟨⟨"Pages"⟩, [], []⟩ := by decide +kernel
  refine ⟨fun s ↦ ?_, isApart_of_corpus? hcorpus (by decide +kernel), ?_, fun _ ↦ rfl,
    by decide +kernel⟩
  · obtain ⟨a, b⟩ := s
    cases a <;> cases b <;> decide +kernel
  · rintro q ⟨h, hh, rfl⟩
    revert h
    decide +kernel

end Volume

end Concordance
