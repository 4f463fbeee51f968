import Concordance.Proofs.Answer
import Concordance.Proofs.Division

/-!
# What a search finds

The index of a corpus answers a query with the documents whose own terms make its formula true. In
the full index, a document has exactly the postings of its own terms (`satisfies_fullIndex`),
because no other document has its identifier; and a document that cannot be read is not in the
index, so that it does not answer a negation either. The rest is put together from the facts about
answers and about surveys.
-/

namespace Concordance

namespace Corpus

variable {root : Path} {text : String} {v : Volume} {s : Settings}

/-- **In the full index a document has the terms of its own text.** -/
theorem mem_posting_fullIndex_iff {e : Entry} (he : e ∈ (ofManifest root text).entries)
    {document : String} (hdocument : v.textAt e.path = .ok document) {t : String} :
    e.id ∈ ((ofManifest root text).fullIndex v s).posting t ↔ t ∈ s.terms document := by
  rw [mem_posting_fullIndex]
  constructor
  · rintro ⟨e', he', hid, document', hdocument', ht⟩
    obtain rfl := eq_of_id_eq he' he hid
    rw [hdocument, Except.ok.injEq] at hdocument'
    rwa [hdocument']
  · intro ht
    exact ⟨e, he, rfl, document, hdocument, ht⟩

theorem satisfies_fullIndex {e : Entry} (he : e ∈ (ofManifest root text).entries)
    {document : String} (hdocument : v.textAt e.path = .ok document) (f : Formula) :
    ((ofManifest root text).fullIndex v s).satisfies e.id f =
      f.holds fun t ↦ decide (t ∈ s.terms document) := by
  rw [Index.satisfies]
  congr 1
  funext t
  rw [decide_eq_decide]
  exact mem_posting_fullIndex_iff he hdocument

/-- The documents that the full index answers a formula with. -/
theorem mem_answer_fullIndex {f : Formula} {id : DocId} :
    id ∈ ((ofManifest root text).fullIndex v s).answer f ↔
      ∃ e ∈ (ofManifest root text).entries, e.id = id ∧
        ∃ document, v.textAt e.path = .ok document ∧
          f.holds (fun t ↦ decide (t ∈ s.terms document)) = true := by
  rw [Index.mem_answer_iff (covered_fullIndex _ v s), mem_documents_fullIndex]
  constructor
  · rintro ⟨⟨e, he, rfl, document, hdocument⟩, hf⟩
    rw [satisfies_fullIndex he hdocument] at hf
    exact ⟨e, he, rfl, document, hdocument, hf⟩
  · rintro ⟨e, he, rfl, document, hdocument, hf⟩
    rw [← satisfies_fullIndex he hdocument] at hf
    exact ⟨⟨e, he, rfl, document, hdocument⟩, hf⟩

/-- **A query finds the documents whose own terms satisfy it.** Whatever the corpus, the settings
and the spelling of queries, and however the survey was made, as long as it skipped no document: a
query that is accepted is answered with the identifiers, in ascending order and each of them once,
of just those entries whose document could be read and makes the formula of the query true. A term
is true of a document that has it among the terms of its visible text, if documents are sources of
pages, and among the terms of the whole text if they are not. -/
theorem search_finds_satisfying_documents (root : Path) (text : String) (v : Volume) (s : Settings)
    (o : OperatorSpelling) (query : String) (f : Formula)
    (hread : (QueryReader.mk o s.alphabet).read query = .ok f) :
    ∃ ids : List DocId,
      (∀ i, ((ofManifest root text).survey v s i).report.isComplete = true →
        ((ofManifest root text).survey v s i).index.search ⟨o, s.alphabet⟩ query = .ok ids) ∧
      (∀ d : Division, d.visits.Perm ((ofManifest root text).entries.map Visit.taken) →
        (d.tally v s).index.search ⟨o, s.alphabet⟩ query = .ok ids) ∧
      ids.Pairwise (· < ·) ∧
      ∀ id, id ∈ ids ↔
        ∃ e ∈ (ofManifest root text).entries, e.id = id ∧
          ∃ document, v.textAt e.path = .ok document ∧
            f.holds (fun t ↦ decide (t ∈
              if s.stripMarkup then s.alphabet.pageTerms document
              else s.alphabet.terms document)) = true := by
  have hsearch := Index.search_of_read hread ((ofManifest root text).fullIndex v s)
  refine ⟨(((ofManifest root text).fullIndex v s).answer f).toList, fun i hi ↦ ?_, fun d hd ↦ ?_,
    (((ofManifest root text).fullIndex v s).answer f).ascending, fun id ↦ ?_⟩
  · rw [index_of_isComplete hi, hsearch]
  · rw [(tally_of_division hd).1, hsearch]
  · -- The settings choose between the two lists of terms by definition.
    exact mem_answer_fullIndex

/-- Two pages about a cat. Both have the word for a dog, the second in a script only. -/
def pagesWithScript : Volume :=
  ((Volume.mk [] ∅).put ["1.txt"] (.file (octetsOf "<b>Кот</b> и пёс"))).put ["2.txt"]
    (.file (octetsOf "<p>Кот</p><script>пёс</script>"))

/-- The cat without the dog is on the second page alone, if only visible text counts, and on no page
otherwise. -/
theorem search_finds_second_page :
    (QueryReader.mk .russian .cyrillic).read "кот И !пёс" =
        .ok (.and (.term "кот") (.not (.term "пёс"))) ∧
      ((ofManifest ⟨""⟩ "2 b\n1 a").survey pagesWithScript ⟨.cyrillic, true⟩ .never).index.search
        ⟨.russian, .cyrillic⟩ "кот И !пёс" = .ok [2] ∧
      ((ofManifest ⟨""⟩ "2 b\n1 a").survey pagesWithScript ⟨.cyrillic, false⟩ .never).index.search
        ⟨.russian, .cyrillic⟩ "кот И !пёс" = .ok [] := by
  have hread : (QueryReader.mk .russian .cyrillic).read "кот И !пёс" =
      .ok (.and (.term "кот") (.not (.term "пёс"))) := by decide +kernel
  have hentries : (ofManifest ⟨""⟩ "2 b\n1 a").entries =
      [⟨2, "b", ⟨"2.txt"⟩⟩, ⟨1, "a", ⟨"1.txt"⟩⟩] := by decide +kernel
  have hfirst : pagesWithScript.textAt ⟨"1.txt"⟩ = .ok "<b>Кот</b> и пёс" := by decide +kernel
  have hsecond : pagesWithScript.textAt ⟨"2.txt"⟩ = .ok "<p>Кот</p><script>пёс</script>" := by
    decide +kernel
  have hvisible₁ : Alphabet.cyrillic.pageTerms "<b>Кот</b> и пёс" = ["кот", "и", "пёс"] := by
    decide +kernel
  have hvisible₂ : Alphabet.cyrillic.pageTerms "<p>Кот</p><script>пёс</script>" = ["кот"] := by
    decide +kernel
  have hwhole₁ : Alphabet.cyrillic.terms "<b>Кот</b> и пёс" = ["кот", "и", "пёс"] := by
    decide +kernel
  have hwhole₂ : Alphabet.cyrillic.terms "<p>Кот</p><script>пёс</script>" = ["кот", "пёс"] := by
    decide +kernel
  refine ⟨hread, ?_, ?_⟩
  · obtain ⟨ids, hids, -, hascending, hmem⟩ := search_finds_satisfying_documents ⟨""⟩ "2 b\n1 a"
      pagesWithScript ⟨.cyrillic, true⟩ .russian "кот И !пёс" _ hread
    have hfound : ids = [2] := by
      refine SortedSet.eq_of_mem_iff hascending (List.pairwise_singleton _ _) fun id ↦ ?_
      rw [hmem id, hentries]
      simpa [hfirst, hsecond, hvisible₁, hvisible₂, Formula.holds] using eq_comm
    rw [hids .never (isComplete_of_forall fun _ ↦ rfl), hfound]
  · obtain ⟨ids, hids, -, hascending, hmem⟩ := search_finds_satisfying_documents ⟨""⟩ "2 b\n1 a"
      pagesWithScript ⟨.cyrillic, false⟩ .russian "кот И !пёс" _ hread
    have hfound : ids = [] := by
      refine List.eq_nil_iff_forall_not_mem.2 fun id ↦ ?_
      rw [hmem id, hentries]
      simp [hfirst, hsecond, hwhole₁, hwhole₂, Formula.holds]
    rw [hids .never (isComplete_of_forall fun _ ↦ rfl), hfound]

end Corpus

end Concordance
