import Concordance.Proofs.QueryComposition
import Concordance.Proofs.Terms
import Concordance.Settings

/-!
# Searching for a word

A word that is neither a connective nor begins with the negation character is a query of its own,
and it is answered with the documents that have all of its terms (`mem_answer_of_word`). Two things
follow.

* Every word of a document finds it. The terms of the word are among those of the document, and what
  is done to an index later only adds to its postings (`mem_posting_afterAll`), so the document is
  found ever after.
* Every term of the Cyrillic alphabet can be typed. It is normal, so it is the one term of its own
  text; and it is in lower case, so it is none of the connectives, whose spellings are not.
-/

namespace Concordance

namespace Index

/-! ### Changes of an index -/

/-- Something that is done to an index. -/
inductive Change where
  /-- A document is added. -/
  | add (id : DocId) (terms : List String)
  /-- The address of a document is recorded. -/
  | setSource (id : DocId) (url : String)
  /-- Another index is merged into it. -/
  | merge (other : Index)
  /-- It is merged into another index, which takes its place. -/
  | mergeInto (other : Index)

/-- The index after a change. -/
def after (x : Index) : Change → Index
  | .add id terms => x.add id terms
  | .setSource id url => x.setSource id url
  | .merge other => x.merge other
  | .mergeInto other => other.merge x

/-- The index after several changes, first change first. -/
def afterAll (x : Index) (cs : List Change) : Index :=
  cs.foldl after x

variable {x : Index} {r : QueryReader} {id : DocId} {t w : String} {f : Formula}

/-- What is found under a term stays, whatever one change adds. -/
theorem mem_posting_after (h : id ∈ x.posting t) (c : Change) : id ∈ (x.after c).posting t := by
  cases c with
  | add i ts => exact mem_posting_add.2 (.inr h)
  | setSource i url => exact h
  | merge other => exact mem_posting_merge.2 (.inl h)
  | mergeInto other => exact mem_posting_merge.2 (.inr h)

/-- **What was found for a term is found ever after.** -/
theorem mem_posting_afterAll (h : id ∈ x.posting t) (cs : List Change) :
    id ∈ (x.afterAll cs).posting t := by
  induction cs generalizing x with
  | nil => exact h
  | cons c cs ih => exact ih (mem_posting_after h c)

/-! ### Words of a document -/

/-- **A word is answered with the documents that have all of its terms.** -/
theorem mem_answer_of_word (h : r.word w = .ok f) :
    id ∈ x.answer f ↔ ∀ u ∈ r.alphabet.terms w, id ∈ x.posting u := by
  obtain ⟨u, us, hterms, rfl⟩ := QueryReader.word_eq_ok_iff.1 h
  have hjoined : Formula.joined? .and ((u :: us).map .term) =
      some ((us.map .term).foldl .and (.term u)) := rfl
  rw [mem_answer_of_joined?_and hjoined, hterms]
  simp [answer]

/-- A word with a letter can be read. -/
theorem exists_word_eq (h : ∃ c ∈ w.toList, r.alphabet.isLetter c = true) :
    ∃ f, r.word w = .ok f := by
  obtain ⟨u, us, hterms⟩ := List.exists_cons_of_ne_nil (Alphabet.terms_ne_nil_iff.2 h)
  exact ⟨_, QueryReader.word_eq_ok_iff.2 ⟨u, us, hterms, rfl⟩⟩

/-- **Every word of a document finds it.** Whatever the index was before the document was added and
whatever is done to it afterwards, a piece of the document between blanks is accepted as a query,
and the document is among those that answer it. The piece must have a letter of the alphabet, and
must not mean something else in a query. -/
theorem word_finds_document (a : Alphabet) (o : OperatorSpelling) (x : Index) (id : DocId)
    (text word : String) (hword : word.toList ∈ blankFreePieces text.toList)
    (hletter : ∃ c ∈ word.toList, a.isLetter c = true) (hand : word ≠ o.and) (hor : word ≠ o.or)
    (hnot : word.toList.head? ≠ some o.not) (cs : List Change) :
    ∃ ids, ((x.add id (a.terms text)).afterAll cs).search ⟨o, a⟩ word = .ok ids ∧ id ∈ ids := by
  have hblank : ∀ c ∈ word.toList, isBlank c = false := fun c hc ↦ by
    simpa using (mem_of_mem_runs hword hc).2
  obtain ⟨f, hf⟩ := exists_word_eq (r := ⟨o, a⟩) hletter
  have hread : QueryReader.read ⟨o, a⟩ word = .ok f :=
    (QueryReader.read_word_eq_ok_iff hblank hand hor hnot).2 hf
  have hanswer : id ∈ ((x.add id (a.terms text)).afterAll cs).answer f := by
    refine (mem_answer_of_word hf).2 fun u hu ↦ mem_posting_afterAll ?_ cs
    exact mem_posting_add.2 (.inl ⟨rfl, Alphabet.mem_terms_of_mem_blankFreePieces hword hu⟩)
  exact ⟨_, search_of_read hread _, hanswer⟩

/-- A hyphenated word between line breaks, with a capital letter, digits and letters of another
script in it. -/
theorem word_finds_document_of_hyphenated :
    ∃ ids,
      (((∅ : Index).add 7 (Alphabet.cyrillic.terms "пёс\nКот-x7ёж\n42")).afterAll
        [.setSource 7 "a", .merge ((∅ : Index).add 9 ["кот"]), .mergeInto ∅, .add 7 []]).search
          ⟨.russian, .cyrillic⟩ "Кот-x7ёж" = .ok ids ∧ 7 ∈ ids :=
  word_finds_document .cyrillic .russian ∅ 7 "пёс\nКот-x7ёж\n42" "Кот-x7ёж" (by decide +kernel)
    ⟨'К', by decide, by decide⟩ (by decide) (by decide) (by decide) _

/-! ### Terms that can be typed -/

/-- An index in which terms of texts and pages were recorded, and nothing else. -/
inductive OfTexts (a : Alphabet) : Index → Prop where
  /-- Nothing was recorded. -/
  | empty : OfTexts a ∅
  /-- A text was added. -/
  | text {x : Index} (id : DocId) (text : String) : OfTexts a x → OfTexts a (x.add id (a.terms text))
  /-- A page was added, of which the visible text counts. -/
  | page {x : Index} (id : DocId) (source : String) :
      OfTexts a x → OfTexts a (x.add id (a.pageTerms source))
  /-- An address was recorded. -/
  | setSource {x : Index} (id : DocId) (url : String) : OfTexts a x → OfTexts a (x.setSource id url)
  /-- Two such indexes were merged. -/
  | merge {x y : Index} : OfTexts a x → OfTexts a y → OfTexts a (x.merge y)

/-- Every term comes from a text, and occurs in some document. -/
structure IsLive (a : Alphabet) (x : Index) : Prop where
  /-- The terms are those of texts. -/
  exists_text : ∀ t ∈ x.postings.keys, ∃ text, t ∈ a.terms text
  /-- No posting is empty. -/
  exists_mem_posting : ∀ t ∈ x.postings.keys, ∃ id, id ∈ x.posting t

namespace IsLive

variable {a : Alphabet} {y : Index}

/-- Adding a text keeps an index live: what it adds are terms of a text, and they occur in its
document. -/
theorem add (h : x.IsLive a) (id : DocId) (text : String) : (x.add id (a.terms text)).IsLive a := by
  constructor
  · intro t ht
    rcases mem_keys_add.1 ht with ht | ht
    · exact ⟨text, ht⟩
    · exact h.exists_text t ht
  · intro t ht
    rcases mem_keys_add.1 ht with ht | ht
    · exact ⟨id, mem_posting_add.2 (.inl ⟨rfl, ht⟩)⟩
    · obtain ⟨i, hi⟩ := h.exists_mem_posting t ht
      exact ⟨i, mem_posting_add.2 (.inr hi)⟩

theorem merge (hx : x.IsLive a) (hy : y.IsLive a) : (x.merge y).IsLive a := by
  constructor
  · intro t ht
    rcases mem_keys_merge.1 ht with ht | ht
    · exact hx.exists_text t ht
    · exact hy.exists_text t ht
  · intro t ht
    rcases mem_keys_merge.1 ht with ht | ht
    · obtain ⟨i, hi⟩ := hx.exists_mem_posting t ht
      exact ⟨i, mem_posting_merge.2 (.inl hi)⟩
    · obtain ⟨i, hi⟩ := hy.exists_mem_posting t ht
      exact ⟨i, mem_posting_merge.2 (.inr hi)⟩

end IsLive

/-- **An index of texts has no term without a text and no empty posting.** -/
theorem OfTexts.isLive {a : Alphabet} (h : x.OfTexts a) : x.IsLive a := by
  induction h with
  | empty => exact ⟨fun t ht ↦ absurd ht List.not_mem_nil, fun t ht ↦ absurd ht List.not_mem_nil⟩
  | text id text _ ih => exact ih.add id text
  | page id source _ ih => exact ih.add id (visibleText source)
  | setSource id url _ ih => exact ⟨ih.exists_text, ih.exists_mem_posting⟩
  | merge _ _ ihx ihy => exact ihx.merge ihy

end Index

namespace QueryReader

variable {r : QueryReader} {t : String}

/-- **A normal term is a query of one operand**, unless it is spelled like a connective. -/
theorem pieces_of_isNormal (h : r.alphabet.IsNormal t.toList) (hand : t ≠ r.spelling.and)
    (hor : t ≠ r.spelling.or) (hnot : r.alphabet.isLetter r.spelling.not = false) :
    r.pieces t = .ok [.operand (.term t) t] := by
  have hterms : r.alphabet.terms t = [t] := Alphabet.terms_of_isNormal h
  have hhead : t.toList.head? ≠ some r.spelling.not := fun hhead ↦
    Alphabet.ne_of_isLetter (h.isLetter_of_mem _ (List.mem_of_head? hhead)) hnot rfl
  rw [pieces_eq_ok_iff, h.blankFreePieces_eq, List.map_singleton, String.ofList_toList]
  exact .cons (.word hand hor hhead hterms) .nil

theorem read_of_pieces {f : Formula} (h : r.pieces t = .ok [.operand f t]) : r.read t = .ok f := by
  rw [read_eq_ok_iff]
  exact ⟨_, h, .single f t, Formula.formulaOf?_operand f t []⟩

end QueryReader

/-- A normal term is in lower case. -/
theorem Alphabet.IsNormal.ne {a : Alphabet} {s t : String} (h : a.IsNormal t.toList)
    (hs : ∃ c ∈ s.toList, lowerChar c ≠ [c]) : t ≠ s := by
  rintro rfl
  obtain ⟨c, hc, hne⟩ := hs
  exact hne (h.lowerChar_of_mem c hc)

namespace Index

/-- **Every term of an index of Cyrillic texts is found by typing it.** In the Russian and in the
English spelling, the term as a query is one operand, which stands for that term: it is no
connective, and it is not negated. The search for it lists the posting of the term, in ascending
order, and the posting is not empty. -/
theorem search_of_term (x : Index) (hx : x.OfTexts .cyrillic) (o : OperatorSpelling)
    (ho : o = .russian ∨ o = .english) (t : String) (ht : t ∈ x.postings.keys) :
    QueryReader.pieces ⟨o, .cyrillic⟩ t = .ok [.operand (.term t) t] ∧
      QueryReader.read ⟨o, .cyrillic⟩ t = .ok (.term t) ∧
      ∃ ids : SortedSet DocId, x.postings.find? t = some ids ∧ (∃ id, id ∈ ids) ∧
        ids.toList.Pairwise (· < ·) ∧ x.search ⟨o, .cyrillic⟩ t = .ok ids.toList := by
  obtain ⟨text, htext⟩ := hx.isLive.exists_text t ht
  have hnormal : Alphabet.cyrillic.IsNormal t.toList := by
    obtain ⟨t', ht', rfl⟩ := List.mem_map.1 htext
    rw [String.toList_ofList]
    exact Alphabet.isNormal_of_mem_termsOf (by decide +kernel) ht'
  have hpieces : QueryReader.pieces ⟨o, .cyrillic⟩ t = .ok [.operand (.term t) t] := by
    -- every connective of the two spellings begins with a capital
    rcases ho with rfl | rfl
    · exact QueryReader.pieces_of_isNormal hnormal (hnormal.ne ⟨'И', by decide, by decide +kernel⟩)
        (hnormal.ne ⟨'И', by decide, by decide +kernel⟩) (by decide +kernel)
    · exact QueryReader.pieces_of_isNormal hnormal (hnormal.ne ⟨'A', by decide, by decide +kernel⟩)
        (hnormal.ne ⟨'O', by decide, by decide +kernel⟩) (by decide +kernel)
  have hread := QueryReader.read_of_pieces hpieces
  obtain ⟨ids, hids⟩ := Option.isSome_iff_exists.1 (SortedMap.mem_keys_iff.1 ht)
  have hposting : x.posting t = ids := by rw [posting, hids]; rfl
  have hmem := hx.isLive.exists_mem_posting t ht
  rw [hposting] at hmem
  refine ⟨hpieces, hread, ids, hids, hmem, ids.ascending, ?_⟩
  rw [search_of_read hread, answer, hposting]

/-- The index of a text and of a page. -/
def textAndPage : Index :=
  ((∅ : Index).add 2 (Alphabet.cyrillic.terms "ИЛИ")).merge
    ((∅ : Index).add 1 (Alphabet.cyrillic.pageTerms "<b>Или</b>ӀѠ"))

theorem ofTexts_textAndPage : textAndPage.OfTexts .cyrillic :=
  .merge (.text 2 "ИЛИ" .empty) (.page 1 "<b>Или</b>ӀѠ" .empty)

/-- The disjunction sign is found as a word, in lower case. -/
theorem search_of_term_or :
    "или" ∈ textAndPage.postings.keys ∧
      QueryReader.read ⟨.russian, .cyrillic⟩ "или" = .ok (.term "или") ∧
      textAndPage.search ⟨.russian, .cyrillic⟩ "или" = .ok [1, 2] := by
  have hmem : "или" ∈ textAndPage.postings.keys := by decide +kernel
  obtain ⟨-, hread, ids, hids, -, -, hsearch⟩ :=
    search_of_term textAndPage ofTexts_textAndPage .russian (.inl rfl) "или" hmem
  have hlist : (textAndPage.postings.find? "или").map SortedSet.toList = some [1, 2] := by
    decide +kernel
  rw [hids] at hlist
  exact ⟨hmem, hread, hsearch.trans (congrArg Except.ok (Option.some.inj hlist))⟩

end Index

end Concordance
