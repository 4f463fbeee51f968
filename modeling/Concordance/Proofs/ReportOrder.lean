import Concordance.Proofs.Manifest

/-!
# The order of a report

The failures of a report are sorted by document, path and text. The order is total and transitive,
so sorting is deterministic up to failures that are alike in all three; and on the failures that can
stand in one report it is antisymmetric (`eq_of_isOrdered`), so the report does not depend on the
order in which the failures came.

Antisymmetry is where the identity of failures enters. A failure of a line shows its number in its
text, and lines have one failure at most; a file that cannot be read belongs to one entry, and is
never the manifest.
-/

namespace Concordance

namespace Failure

/-! ### A total preorder -/

/-- Failures of one document are ordered by path, and by message where the paths agree. -/
theorem byText_eq_true_iff {a b : Failure} :
    isOrdered.byText a b = true ↔
      a.path.text < b.path.text ∨
        a.path.text = b.path.text ∧ a.cause.message ≤ b.cause.message := by
  rw [isOrdered.byText, Bool.or_eq_true, Bool.and_eq_true, decide_eq_true_eq, decide_eq_true_eq,
    Bool.not_eq_true', decide_eq_false_iff_not, Std.not_lt]

private theorem byText_total (a b : Failure) :
    isOrdered.byText a b = true ∨ isOrdered.byText b a = true := by
  rw [byText_eq_true_iff, byText_eq_true_iff]
  rcases Std.lt_trichotomy a.path.text b.path.text with h | h | h
  · exact .inl (.inl h)
  · rcases Std.le_total (a := a.cause.message) (b := b.cause.message) with hm | hm
    · exact .inl (.inr ⟨h, hm⟩)
    · exact .inr (.inr ⟨h.symm, hm⟩)
  · exact .inr (.inl h)

private theorem byText_trans {a b c : Failure} (hab : isOrdered.byText a b = true)
    (hbc : isOrdered.byText b c = true) : isOrdered.byText a c = true := by
  rw [byText_eq_true_iff] at hab hbc ⊢
  rcases hab with hab | ⟨hab, hmab⟩
  · rcases hbc with hbc | ⟨hbc, -⟩
    · exact .inl (Std.lt_trans hab hbc)
    · exact .inl (hbc ▸ hab)
  · rcases hbc with hbc | ⟨hbc, hmbc⟩
    · exact .inl (hab ▸ hbc)
    · exact .inr ⟨hab.trans hbc, Std.le_trans hmab hmbc⟩

/-- Failures come by document, those without one first; then by path and text. -/
theorem isOrdered_eq_true_iff {a b : Failure} :
    a.isOrdered b = true ↔
      a.id? < b.id? ∨ a.id? = b.id? ∧ isOrdered.byText a b = true := by
  rw [isOrdered]
  cases ha : a.id? with
  | none => cases hb : b.id? <;> simp [LT.lt, Option.lt]
  | some i =>
    cases hb : b.id? with
    | none => simp [LT.lt, Option.lt]
    | some j => simp

/-- A failure without a document comes before all others, and documents come in their order. -/
private theorem idLt_trichotomy (i j : Option DocId) : i < j ∨ i = j ∨ j < i := by
  cases i with
  | none => cases j <;> simp [LT.lt, Option.lt]
  | some i =>
    cases j with
    | none => simp [LT.lt, Option.lt]
    | some j => simpa using Std.lt_trichotomy i j

private theorem idLt_trans {i j k : Option DocId} (hij : i < j) (hjk : j < k) : i < k := by
  cases i <;> cases j <;> cases k <;> simp_all [LT.lt, Option.lt]
  exact Nat.lt_trans hij hjk

private theorem idLt_irrefl (i : Option DocId) : ¬ i < i := by
  cases i with
  | none => simp [LT.lt, Option.lt]
  | some i => simp

/-- Any two failures can be ordered, so that sorting has a result. -/
theorem isOrdered_total (a b : Failure) : (a.isOrdered b || b.isOrdered a) = true := by
  rw [Bool.or_eq_true, isOrdered_eq_true_iff, isOrdered_eq_true_iff]
  rcases idLt_trichotomy a.id? b.id? with h | h | h
  · exact .inl (.inl h)
  · exact (byText_total a b).imp (fun ht ↦ .inr ⟨h, ht⟩) fun ht ↦ .inr ⟨h.symm, ht⟩
  · exact .inr (.inl h)

/-- And the order is transitive, since it compares document, path and message in turn. -/
theorem isOrdered_trans (a b c : Failure) (hab : a.isOrdered b = true)
    (hbc : b.isOrdered c = true) : a.isOrdered c = true := by
  rw [isOrdered_eq_true_iff] at hab hbc ⊢
  rcases hab with hab | ⟨hab, htab⟩
  · rcases hbc with hbc | ⟨hbc, -⟩
    · exact .inl (idLt_trans hab hbc)
    · exact .inl (hbc ▸ hab)
  · rcases hbc with hbc | ⟨hbc, htbc⟩
    · exact .inl (hab ▸ hbc)
    · exact .inr ⟨hab.trans hbc, byText_trans htab htbc⟩

/-- Failures that come before each other are alike in everything that the order looks at. -/
theorem alike_of_isOrdered {a b : Failure} (hab : a.isOrdered b = true)
    (hba : b.isOrdered a = true) :
    a.id? = b.id? ∧ a.path.text = b.path.text ∧ a.cause.message = b.cause.message := by
  rw [isOrdered_eq_true_iff] at hab hba
  rcases hab with hab | ⟨hid, hab⟩
  · rcases hba with hba | ⟨hid, -⟩
    · exact absurd (idLt_trans hab hba) (idLt_irrefl _)
    · exact absurd (hid ▸ hab) (idLt_irrefl _)
  · rcases hba with hba | ⟨-, hba⟩
    · exact absurd (hid ▸ hba) (idLt_irrefl _)
    · rw [byText_eq_true_iff] at hab hba
      rcases hab with hab | ⟨hpath, hab⟩
      · rcases hba with hba | ⟨hpath, -⟩
        · exact absurd (Std.lt_trans hab hba) Std.lt_irrefl
        · exact absurd (hpath ▸ hab) Std.lt_irrefl
      · rcases hba with hba | ⟨-, hba⟩
        · exact absurd (hpath ▸ hba) Std.lt_irrefl
        · exact ⟨hid, hpath, Std.le_antisymm hab hba⟩

end Failure

/-- The text of a failure of a line determines the number of the line. -/
theorem FailureCause.line_eq_of_message_eq {m n : Nat} {e e' : LineFault}
    (h : (FailureCause.line m e).message = (FailureCause.line n e').message) : m = n := by
  have hlist := congrArg String.toList h
  simp only [FailureCause.message, String.toList_append, List.append_assoc,
    Nat.toString_eq_ofList_toDigits, String.toList_ofList] at hlist
  exact digits_append_cons_inj (c := ':') (d := ':') (by decide) (by decide)
    (List.append_cancel_left hlist)

namespace Corpus

/-- A failure that a survey of the corpus can report: one of its manifest, or that of an entry whose
file cannot be read. -/
def CanFail (c : Corpus) (f : Failure) : Prop :=
  f ∈ c.failures ∨ ∃ e ∈ c.entries, ∃ fault, f = ⟨some e.id, e.path, .unreadable fault⟩

/-- Two failures of files of one document with one text are equal. -/
private theorem unreadable_inj {x y : FileFault}
    (h : (FailureCause.unreadable x).message = (FailureCause.unreadable y).message) : x = y := by
  revert h
  cases x <;> cases y <;> decide

/-- **Failures of one corpus that the order cannot tell apart are equal.** -/
theorem eq_of_isOrdered {root : Path} {text : String} {f g : Failure}
    (hf : (ofManifest root text).CanFail f) (hg : (ofManifest root text).CanFail g)
    (hfg : f.isOrdered g = true) (hgf : g.isOrdered f = true) : f = g := by
  obtain ⟨hid, hpath, hmessage⟩ := Failure.alike_of_isOrdered hfg hgf
  have hne : ∀ {f : Failure} {e : Entry}, f ∈ (ofManifest root text).failures →
      e ∈ (ofManifest root text).entries → f.path.text ≠ e.path.text := by
    intro f e hf he
    rw [(cause_of_mem hf).1, path_of_mem he]
    exact text_manifestPath_ne root e.id
  rcases hf with hf | ⟨e, he, x, rfl⟩
  · rcases hg with hg | ⟨e', he', y, rfl⟩
    · obtain ⟨-, m, a, hm⟩ := cause_of_mem hf
      obtain ⟨-, n, b, hn⟩ := cause_of_mem hg
      rw [hm, hn] at hmessage
      have hline : f.line? = g.line? := by
        simp only [Failure.line?, hm, hn, FailureCause.line_eq_of_message_eq hmessage]
      exact List.inj_on_of_nodup_map (nodup_lines root text) hf hg hline
    · exact absurd hpath (hne hf he')
  · rcases hg with hg | ⟨e', he', y, rfl⟩
    · exact absurd hpath.symm (hne hg he)
    · obtain rfl : e = e' :=
        List.inj_on_of_nodup_map (nodup_ids root text) he he' (Option.some.inj hid)
      rw [unreadable_inj hmessage]

end Corpus

/-! ### Reports -/

/-- Lists of the same failures are sorted alike, if the order tells their failures apart. -/
theorem mergeSort_eq_of_perm {l m : List Failure} (h : l.Perm m)
    (hanti : ∀ f ∈ l, ∀ g ∈ l, f.isOrdered g = true → g.isOrdered f = true → f = g) :
    l.mergeSort Failure.isOrdered = m.mergeSort Failure.isOrdered := by
  have hl := List.pairwise_mergeSort Failure.isOrdered_trans Failure.isOrdered_total l
  have hm := List.pairwise_mergeSort Failure.isOrdered_trans Failure.isOrdered_total m
  have hperm := (List.mergeSort_perm l Failure.isOrdered).trans
    (h.trans (List.mergeSort_perm m Failure.isOrdered).symm)
  refine List.Perm.eq_of_pairwise (fun f g hf hg ↦ ?_) hl hm hperm
  rw [List.mem_mergeSort] at hf hg
  exact hanti f hf g (h.mem_iff.2 hg)

end Concordance
