import Concordance.Proofs.Supply

/-!
# What a supply leaves alone

Nothing is written before a survey is over, and then only the outcome of a complete one. So a rebuild
without a corpus, and one that was interrupted, leave the volume as it was, whatever is in the place
of the cache; and any other changes nothing beyond the cache, its sibling and the directories that
are missing above it, even if the cache cannot be saved. `Supply.Spares` is this rule, and
`supply_spares` shows that rebuilding obeys it, and supplying too, unless the cache could be used,
when nothing changes at all.
-/

namespace Concordance

namespace Volume

/-- Saving a cache makes directories above it and writes the cache and its sibling, and nothing
else, whether or not it succeeds. -/
theorem grown_saveCache (v : Volume) (x : Index) (s : Settings) (cache : Path)
    (m : Option Mishap) :
    v.Grown (cache.IsHolder v.here) (v.IsCachePlace cache) (v.saveCache x s cache m).1 := by
  cases hsave : v.saveCache x s cache m with
  | mk w e =>
    rw [saveCache] at hsave
    cases e with
    | some e => exact (grown_of_replaceFile_error hsave).mono_written fun _ hq ↦ .inl hq
    | none => exact grown_of_replaceFile hsave

end Volume

namespace Supply

/-- How the outcome of a supply leaves the volume when the cache was not used. -/
structure Spares (s : Supply) (v : Volume) (r : Volume × Supplied) : Prop where
  /-- Without a manifest that can be read, the index is empty and the volume is as it was. -/
  unavailable : ∀ e, v.textAt (Corpus.manifestPath s.corpus) = .error e →
    r = (v, ⟨∅, .unavailable⟩)
  /-- If an entry was skipped, the report says so and the volume is as it was. -/
  interrupted : ∀ text, v.textAt (Corpus.manifestPath s.corpus) = .ok text →
    (∃ x ∈ (Corpus.ofManifest s.corpus text).visits s.interrupt, x.isSkipped = true) →
      r.1 = v ∧ ∃ report, r.2.origin = .survey report ∧ report.isComplete = false
  /-- Relative paths start from the same directory in any case. -/
  here : r.1.here = v.here
  /-- Nothing changed in any case but the cache, its sibling, and directories above the cache that
  were missing and were made. -/
  elsewhere : ∀ q, r.1.node? q ≠ v.node? q →
    q = s.cache.place v.here ∨ q = s.cache.sibling.place v.here ∨
      s.cache.IsHolder v.here q ∧ v.node? q = none ∧ r.1.node? q = some .directory

variable {v : Volume}

/-- Keeping an outcome writes in the place of the cache only, and may write nothing. -/
theorem grown_keep (s : Supply) (v : Volume) (x : Survey) :
    v.Grown (s.cache.IsHolder v.here) (v.IsCachePlace s.cache) (s.keep v x) := by
  rw [keep]
  split
  · exact v.grown_saveCache x.index s.settings s.cache s.mishap
  · exact .refl v

/-- The outcome of a survey that skipped an entry is not kept. -/
theorem keep_of_not_isComplete (s : Supply) {x : Survey} (h : x.report.isComplete = false) :
    s.keep v x = v := by
  rw [keep, h, if_neg Bool.false_ne_true]

theorem rebuild_of_unavailable {s : Supply} {e : FileFault}
    (h : v.textAt (Corpus.manifestPath s.corpus) = .error e) : s.rebuild v = (v, none) := by
  rw [rebuild, survey?, Volume.corpus?, h]
  rfl

/-- A rebuild with a manifest is a survey of the corpus, of which the outcome is kept. -/
theorem rebuild_of_text {s : Supply} {text : String}
    (h : v.textAt (Corpus.manifestPath s.corpus) = .ok text) :
    s.rebuild v =
      (s.keep v ((Corpus.ofManifest s.corpus text).survey v s.settings s.interrupt),
        some ((Corpus.ofManifest s.corpus text).survey v s.settings s.interrupt)) := by
  rw [rebuild, survey?, Volume.corpus?, h]
  rfl

/-- **A rebuild obeys the rule.** Without a manifest it does nothing, after an interruption it keeps
nothing, and otherwise it writes no more than saving does. -/
theorem spares_rebuild (s : Supply) (v : Volume) :
    s.Spares v ((s.rebuild v).1, .ofSurvey (s.rebuild v).2) := by
  cases htext : v.textAt (Corpus.manifestPath s.corpus) with
  | error e =>
    rw [rebuild_of_unavailable htext]
    refine ⟨fun _ _ ↦ rfl, fun text h ↦ ?_, rfl, fun q hq ↦ absurd rfl hq⟩
    rw [htext] at h
    exact absurd h (by simp)
  | ok text =>
    rw [rebuild_of_text htext]
    have hgrown := s.grown_keep v
      ((Corpus.ofManifest s.corpus text).survey v s.settings s.interrupt)
    refine ⟨fun e h ↦ ?_, fun text' h hskipped ↦ ?_, hgrown.here, fun q hq ↦ ?_⟩
    · rw [htext] at h
      exact absurd h (by simp)
    · rw [htext] at h
      obtain rfl := Except.ok.inj h
      have hincomplete : ((Corpus.ofManifest s.corpus text).survey v s.settings
          s.interrupt).report.isComplete = false := by
        obtain ⟨x, hx, hxskipped⟩ := hskipped
        rw [← Bool.not_eq_true, Corpus.report_survey, Corpus.isComplete_iff]
        intro hnone
        rw [hnone x hx] at hxskipped
        exact absurd hxskipped Bool.false_ne_true
      exact ⟨s.keep_of_not_isComplete hincomplete, _, rfl, hincomplete⟩
    · rcases hgrown.elsewhere q with hsame | hmade | hsibling | hcache
      · exact absurd hsame hq
      · exact .inr (.inr hmade)
      · exact .inr (.inl hsibling)
      · exact .inl hcache

/-- **Rebuilds that fail or are interrupted leave the volume as it was, and no supply changes more
than the cache and what saving it takes.** A supply from the cache changes nothing. -/
theorem supply_spares (s : Supply) (v : Volume) :
    s.Spares v ((s.rebuild v).1, .ofSurvey (s.rebuild v).2) ∧
      ((s.provide v).2.origin = .cache → (s.provide v).1 = v) ∧
        ((s.provide v).2.origin ≠ .cache → s.Spares v (s.provide v)) := by
  have hrebuild := s.spares_rebuild v
  refine ⟨hrebuild, ?_⟩
  rw [provide]
  cases v.loadCache? s.cache s.settings with
  | some x => exact ⟨fun _ ↦ rfl, fun h ↦ absurd rfl h⟩
  | none =>
    refine ⟨fun h ↦ ?_, fun _ ↦ hrebuild⟩
    -- A survey is never taken for a cache.
    cases hsurvey : (s.rebuild v).2 <;> simp [hsurvey, Supplied.ofSurvey] at h

/-- A supply of an index of one page that is interrupted at once. -/
def interruptedSupply : Supply :=
  ⟨⟨"Pages"⟩, ⟨"index.json"⟩, ⟨.cyrillic, false⟩, .always, none⟩

/-- Interrupted before its only page, it changes nothing, and its report says that it is not
complete. -/
theorem supply_spares_of_interruptedSupply :
    (interruptedSupply.provide Volume.onePage).1 = Volume.onePage ∧
      ∃ report, (interruptedSupply.provide Volume.onePage).2.origin = .survey report ∧
        report.isComplete = false :=
  ((supply_spares interruptedSupply Volume.onePage).2.2 (by decide +kernel)).interrupted "1 a"
    (by decide +kernel) (by decide +kernel)

end Supply

end Concordance
