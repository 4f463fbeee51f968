import Concordance.Proofs.Accounts

/-!
# Interrupted surveys

Whoever interrupts a survey goes by what observers are told, and observers are told of an entry
after it was dealt with. So an interruption after `n` entries comes in time for the next one: the
visits of the survey are the first `n` entries, taken, and the others, skipped (`visits_after`).
Skipping changes nothing in a tally but the count of what was skipped (`tally_visits_after`), so the
survey finds what an uninterrupted survey of the first `n` entries finds, and all that shows of the
others is whether there were any.

An entry that cannot be read was dealt with like any other. It counts towards `n`, and is reported.
-/

namespace Concordance

/-- A visit of a survey that had been interrupted. -/
def Visit.skipped (e : Entry) : Visit := ⟨e, true⟩

/-- **Skipping changes nothing in a tally but the count of what was skipped.** -/
theorem Tally.foldl_visit_skipped (v : Volume) (s : Settings) (es : List Entry) (t : Tally) :
    (es.map Visit.skipped).foldl (visit v s) t = { t with skipped := t.skipped + es.length } := by
  induction es generalizing t with
  | nil => rfl
  | cons e es ih =>
    have hstep : t.visit v s (.skipped e) = t.skip := rfl
    rw [List.map_cons, List.foldl_cons, hstep, ih, skip, List.length_cons, Nat.add_assoc,
      Nat.add_comm 1]

namespace Corpus

/-- The corpus with the first `n` of its entries. -/
def first (c : Corpus) (n : Nat) : Corpus := { c with entries := c.entries.take n }

variable {v : Volume} {s : Settings}

/-- **An interruption after `n` entries divides them in order.** The first `n` are taken and the
others are skipped. -/
theorem visits_after (c : Corpus) (n : Nat) :
    c.visits (.after n) =
      (c.entries.take n).map Visit.taken ++ (c.entries.drop n).map Visit.skipped := by
  have hraised (k : Nat) : (Interrupt.after n).isRaised (c.told k) = decide (n ≤ k) := by
    simp [Interrupt.after, told]
  refine List.ext_getElem? fun k ↦ ?_
  rw [visits, List.getElem?_mapIdx, hraised, List.getElem?_append, List.length_map,
    List.length_take]
  split
  · next hk =>
    have hn : k < n := Nat.lt_of_lt_of_le hk (Nat.min_le_left _ _)
    rw [List.getElem?_map, List.getElem?_take_of_lt hn, decide_eq_false (Nat.not_le.2 hn)]
    rfl
  · next hk =>
    rw [List.getElem?_map, List.getElem?_drop]
    rcases Nat.lt_or_ge k c.entries.length with hlength | hlength
    · have hn : n ≤ k := by omega
      rw [Nat.min_eq_left (Nat.le_trans hn (Nat.le_of_lt hlength)), Nat.add_sub_cancel' hn,
        decide_eq_true hn]
      rfl
    · have hbeyond : c.entries.length ≤ n + (k - min n c.entries.length) := by omega
      rw [List.getElem?_eq_none hlength, List.getElem?_eq_none hbeyond]
      rfl

/-- The failures of an uninterrupted tally are those of its entries. -/
theorem failures_tally_never (c : Corpus) (v : Volume) (s : Settings) :
    (tally v s (c.visits .never)).failures = c.entries.filterMap (Entry.failure? v) := by
  have hfailures : (c.entries.map Visit.taken).filterMap (Visit.failure? v) =
      c.entries.filterMap (Entry.failure? v) := by
    rw [List.filterMap_map]
    rfl
  rw [visits_never, tally, Tally.foldl_visit, hfailures]
  exact List.nil_append _

theorem skipped_tally_never (c : Corpus) (v : Volume) (s : Settings) :
    (tally v s (c.visits .never)).skipped = 0 := by
  have hcount : (c.entries.map Visit.taken).countP Visit.isSkipped = 0 := by
    rw [List.countP_map]
    exact List.countP_eq_zero.2 fun _ _ ↦ Bool.false_ne_true
  rw [visits_never, tally, Tally.foldl_visit, hcount]
  rfl

/-- **Apart from how many there are, nothing shows of the entries behind the first `n`.** -/
theorem tally_visits_after (c : Corpus) (v : Volume) (s : Settings) (n : Nat) :
    tally v s (c.visits (.after n)) =
      { tally v s ((c.first n).visits .never) with skipped := c.entries.length - n } := by
  have hskipped : (tally v s ((c.entries.take n).map Visit.taken)).skipped = 0 := by
    have hnever := skipped_tally_never (c.first n) v s
    rwa [visits_never] at hnever
  rw [visits_after, visits_never, tally, List.foldl_append, Tally.foldl_visit_skipped,
    List.length_drop, ← tally, hskipped, Nat.zero_add]
  rfl

/-- Every entry of an uninterrupted tally was read or could not be read. -/
theorem indexed_add_failures_tally_never (c : Corpus) (v : Volume) (s : Settings) :
    (tally v s (c.visits .never)).indexed + (c.entries.filterMap (Entry.failure? v)).length =
      c.entries.length := by
  have htotal := Tally.total_foldl_visit v s (c.visits .never) .empty
  have hlength : (c.visits .never).length = c.entries.length := List.length_mapIdx
  rw [← tally, Tally.total, skipped_tally_never, failures_tally_never, hlength] at htotal
  exact htotal.trans (Nat.zero_add _)

end Corpus

/-- The outcome of a survey that was interrupted after `n` entries. -/
structure Survey.IsCut (o : Survey) (c : Corpus) (v : Volume) (s : Settings) (n : Nat) : Prop where
  /-- The index is that of an uninterrupted survey of the first `n` entries. -/
  index : o.index = ((c.first n).survey v s .never).index
  /-- As many documents were read. -/
  indexed : o.report.indexed = ((c.first n).survey v s .never).report.indexed
  /-- The same failures are reported in the same order. -/
  failures : o.report.failures = ((c.first n).survey v s .never).report.failures
  /-- These are all failures of the manifest, and those of documents among the first `n`. -/
  reported : o.report.failures.Perm
    (c.failures ++ (c.entries.take n).filterMap (Entry.failure? v))
  /-- The first `n` entries, as far as there are so many, were read or could not be read. -/
  taken : o.report.indexed + ((c.entries.take n).filterMap (Entry.failure? v)).length =
    min n c.entries.length
  /-- The uninterrupted survey is complete. -/
  whole : ((c.first n).survey v s .never).report.isComplete = true
  /-- The report tells of the interruption exactly if there were more than `n` entries. -/
  cancelled : o.report.cancelled = true ↔ n < c.entries.length
  /-- Observers are told the same as if there had been no interruption. -/
  progress : o.progress =
    .start c.entries.length :: (List.replicate c.entries.length .advance ++ [.finish])

/-- **An interruption after `n` entries cuts the survey off there.** This is so if the survey is
made in one go, and if the entries are cut into pieces, in order, whose tallies are merged. -/
theorem Corpus.interruption_cuts (c : Corpus) (v : Volume) (s : Settings) (n : Nat) :
    (c.survey v s (.after n)).IsCut c v s n ∧
      ∀ d : Division, d.visits = c.visits (.after n) → (d.survey c v s).IsCut c v s n := by
  have hdivision (d : Division) (hd : d.visits = c.visits (.after n)) :
      (d.survey c v s).IsCut c v s n := by
    have htally : d.tally v s =
        { tally v s ((c.first n).visits .never) with skipped := c.entries.length - n } := by
      rw [Division.tally_eq, hd, tally_visits_after]
    have hlength : d.visits.length = c.entries.length := hd ▸ List.length_mapIdx
    have hfailures := failures_tally_never (c.first n) v s
    rw [Division.survey, htally, Division.advances_eq, hlength]
    exact
      { index := (index_survey (c.first n) v s .never).symm
        indexed := by rw [report_survey]; rfl
        failures := by rw [report_survey]; rfl
        reported := by
          refine (List.mergeSort_perm _ _).trans ?_
          rw [hfailures]
          exact .refl _
        taken := by
          rw [← List.length_take]
          exact indexed_add_failures_tally_never (c.first n) v s
        whole := isComplete_of_forall fun _ ↦ rfl
        cancelled := by
          simp only [reportOn, decide_eq_true_eq]
          omega
        progress := rfl }
  refine ⟨?_, hdivision⟩
  rw [survey_eq_share]
  exact hdivision (.share _) rfl

namespace Corpus

/-- A manifest with a bad line. The document of its first entry does not exist. -/
def missingFirst : Corpus := ofManifest ⟨""⟩ "3 c\nx\n1 a\n2 b"

/-- Two workers, of whom the second is interrupted after the first of its entries. -/
def interruptedPieces : Division :=
  .join (.share [.taken ⟨3, "c", ⟨"3.txt"⟩⟩])
    (.share [.taken ⟨1, "a", ⟨"1.txt"⟩⟩, .skipped ⟨2, "b", ⟨"2.txt"⟩⟩])

/-- The entry that could not be read is one of the two. After all three nothing is left to skip. -/
theorem interruption_cuts_of_missingFirst :
    interruptedPieces.visits = missingFirst.visits (.after 2) ∧
      (interruptedPieces.survey missingFirst twoPages ⟨.cyrillic, false⟩).report.cancelled = true ∧
      (interruptedPieces.survey missingFirst twoPages ⟨.cyrillic, false⟩).report.indexed + 1 = 2 ∧
      (missingFirst.survey twoPages ⟨.cyrillic, false⟩ (.after 3)).report.cancelled ≠ true := by
  have hvisits : interruptedPieces.visits = missingFirst.visits (.after 2) := by decide +kernel
  have hcut := (interruption_cuts missingFirst twoPages ⟨.cyrillic, false⟩ 2).2 _ hvisits
  have hwhole := (interruption_cuts missingFirst twoPages ⟨.cyrillic, false⟩ 3).1
  refine ⟨hvisits, hcut.cancelled.2 (by decide +kernel), ?_, ?_⟩
  · have htaken := hcut.taken
    have hfailures :
        ((missingFirst.entries.take 2).filterMap (Entry.failure? twoPages)).length = 1 := by
      decide +kernel
    have hlength : missingFirst.entries.length = 3 := by decide +kernel
    rwa [hfailures, hlength] at htaken
  · rw [ne_eq, hwhole.cancelled]
    decide +kernel

end Corpus

end Concordance
