import Concordance.Proofs.Accounts
import Concordance.Proofs.ManifestColumns
import Concordance.Proofs.ManifestGrammar
import Concordance.Proofs.SingleLine
import Concordance.Proofs.TextLines

/-!
# Listings with addresses are manifests

Behind its first line, a listing with addresses has the form of a manifest, and is read as one. An
address is free text, with tabs and all kinds of blanks in it; but it came from a line of a
manifest, so it has no line break, is not empty, and neither begins nor ends with a blank. These are
just the properties (`IsSourceAddress`) for which a line of the listing offers what was written
(`offers_sourceLine`), whatever else is in the address. A document is listed once, so no line is for
a document that has an entry already (`readLines_of_offers`).

Every document of an index that was built from a corpus has the address that the manifest gives it
(`Builds.exists_entry`), also if the survey was interrupted or divided among workers.
-/

namespace Concordance

/-- A text that can be the address of an entry: it is not empty, has no blanks at its ends, and lies
on one line. -/
structure IsSourceAddress (url : String) : Prop where
  /-- It is not empty. -/
  ne_empty : url ≠ ""
  /-- It has no blanks at its ends. -/
  trim_eq : trim url.toList = url.toList
  /-- It has no line break. -/
  newline_not_mem : '\n' ∉ url.toList

namespace Corpus

variable {root : Path} {text : String} {e : Entry} {id : DocId} {url : String} {line : List Char}

/-! ### Reading lines for distinct documents -/

/-- What is in an address was in its line. -/
theorem Offers.mem_of_mem_url (h : Offers line id url) {c : Char} (hc : c ∈ url.toList) :
    c ∈ line := by
  obtain ⟨before, b, after, hline, -, -, -, rfl⟩ := h
  rw [String.toList_ofList] at hc
  refine mem_of_mem_trim ?_
  rw [hline]
  exact List.mem_append_right _ (List.mem_cons_of_mem _ (mem_of_mem_trim hc))

/-- What is read as an entry comes from a line that offers it. -/
theorem exists_offers_of_mem (he : e ∈ (ofManifest root text).entries) :
    ∃ line ∈ lines (· = '\n') text.toList, Offers line e.id e.url := by
  obtain ⟨rs, hrs, hread⟩ := exists_lineByLine root 1 [] (lines (· = '\n') text.toList)
  rw [ofManifest, readManifest, hread] at he
  obtain ⟨i, line, hline, hgives⟩ := hrs.exists_of_mem_entries he
  exact ⟨line, List.mem_of_getElem? hline, ((hgives.entry_iff e).1 rfl).1⟩

/-- The address of an entry is the address of an entry as it should be. -/
theorem isSourceAddress_of_mem (he : e ∈ (ofManifest root text).entries) :
    IsSourceAddress e.url := by
  obtain ⟨line, hline, hoffers⟩ := exists_offers_of_mem he
  refine ⟨hoffers.ne_empty, hoffers.trim_toList, fun hbreak ↦ ?_⟩
  have hmem := hoffers.mem_of_mem_url hbreak
  exact absurd (not_sep_of_mem_cut (mem_cut_of_mem_lines hline) hmem) (by simp)

/-- **Lines that offer distinct documents are all read as entries**, and as nothing else. -/
theorem readLines_of_offers {ls : List (List Char)} {ps : List (DocId × String)}
    (h : List.Forall₂ (fun line p ↦ Offers line p.1 p.2) ls ps) (hnodup : (ps.map Prod.fst).Nodup)
    {n : Nat} {seen : List DocId} (hseen : ∀ p ∈ ps, p.1 ∉ seen) :
    readLines root n seen ls = ps.map fun p ↦ .ok ⟨p.1, p.2, documentPath root p.1⟩ := by
  induction h generalizing n seen with
  | nil => rfl
  | @cons line p ls ps hline hrest ih =>
    obtain ⟨hfresh, hnodup⟩ := List.nodup_cons.1 hnodup
    have hne : (trim line).isEmpty = false := by
      rw [← Bool.not_eq_true, isEmpty_trim, List.all_eq_true]
      exact hline.not_forall_isBlank
    have hseen' : ∀ q ∈ ps, q.1 ∉ p.1 :: seen := by
      intro q hq hmem
      rcases List.mem_cons.1 hmem with heq | hmem
      · exact hfresh (heq ▸ List.mem_map_of_mem hq)
      · exact hseen q (List.mem_cons_of_mem p hq) hmem
    rw [readLines, hne, if_neg Bool.false_ne_true, readLine_eq_ok_iff.2 hline, List.map_cons]
    simp only [if_neg (hseen p List.mem_cons_self), ih hnodup hseen']

/-! ### Lines of a listing -/

/-- The line of a document and its address in a listing. -/
def sourceText (p : DocId × String) : String := p.1.text ++ "\t" ++ p.2

variable {p : DocId × String}

/-- **The line of a document in a listing offers what was written.** The blank behind the identifier
is the first one in the line. -/
theorem offers_sourceText (h : IsSourceAddress p.2) : Offers (sourceText p).toList p.1 p.2 := by
  have hline : (sourceText p).toList = p.1.digits ++ '\t' :: p.2.toList := by
    simp [sourceText]
  have hdigits : ∀ c ∈ p.1.digits, isBlank c = false := fun _ ↦ DocId.isBlank_of_mem_digits
  have htrim : trim (p.1.digits ++ '\t' :: p.2.toList) = p.1.digits ++ '\t' :: p.2.toList := by
    refine trim_eq_self (fun c hc ↦ ?_) fun c hc ↦ ?_
    · rw [List.head?_append, Option.or_of_isSome (by simpa using p.1.digits_ne_nil)] at hc
      exact hdigits c (List.mem_of_head? hc)
    · rw [← List.singleton_append, ← List.append_assoc, List.getLast?_append,
        Option.or_of_isSome (by simpa using h.ne_empty), ← h.trim_eq] at hc
      exact not_isBlank_of_getLast?_trim hc
  rw [hline]
  refine ⟨p.1.digits, '\t', p.2.toList, htrim, hdigits, by decide, ?_, ?_⟩
  · exact DocId.parse_eq_ok_iff.1 p.1.parse_digits
  · rw [h.trim_eq, String.ofList_toList]

/-- Neither part has a line break in it, so a document is listed with its address on one line. -/
theorem newline_not_mem_sourceText (h : IsSourceAddress p.2) : '\n' ∉ (sourceText p).toList :=
  newline_not_mem_append (newline_not_mem_append p.1.newline_not_mem_text (by decide))
    h.newline_not_mem

/-- **Lines of distinct documents are read as they were written**, in whatever directory. -/
theorem readManifest_sourceText {ps : List (DocId × String)} (h : ∀ p ∈ ps, IsSourceAddress p.2)
    (hnodup : (ps.map Prod.fst).Nodup) (root : Path) :
    readManifest root (joinLines (ps.map sourceText)) =
      ps.map fun p ↦ .ok ⟨p.1, p.2, documentPath root p.1⟩ := by
  have hlines : lines (· = '\n') (joinLines (ps.map sourceText)).toList =
      (ps.map sourceText).map String.toList := by
    refine lines_joinLines fun l hl ↦ ?_
    obtain ⟨p, hp, rfl⟩ := List.mem_map.1 hl
    exact newline_not_mem_sourceText (h p hp)
  rw [readManifest, hlines]
  refine readLines_of_offers ?_ hnodup (by simp)
  rw [List.map_map, List.forall₂_map_left_iff, List.forall₂_same]
  exact fun p hp ↦ offers_sourceText (h p hp)

/-! ### Indexes built from a corpus -/

/-- The index was built from the corpus, of whatever files there were. -/
inductive Builds (c : Corpus) : Index → Prop where
  /-- A survey was made, interrupted or not. -/
  | survey (v : Volume) (s : Settings) (i : Interrupt) : c.Builds (c.survey v s i).index
  /-- The entries were divided among workers, who skipped some of them or none. -/
  | division (v : Volume) (s : Settings) {d : Division}
    (h : (d.visits.map Visit.entry).Perm c.entries) : c.Builds (d.tally v s).index

variable {x : Index} {ids : List DocId}

/-- **A document that is known has the address that the manifest gives it.** -/
theorem Builds.exists_entry (h : (ofManifest root text).Builds x) (hid : id ∈ x.documents) :
    ∃ e ∈ (ofManifest root text).entries, e.id = id ∧ x.source? id = some e.url := by
  obtain ⟨v, s, xs, hxs, rfl⟩ : ∃ (v : Volume) (s : Settings) (xs : List Visit),
      (xs.map Visit.entry).Perm (ofManifest root text).entries ∧ x = (tally v s xs).index := by
    cases h with
    | survey v s i => exact ⟨v, s, _, .of_eq (map_entry_visits _ i), index_survey _ v s i⟩
    | division v s hd => exact ⟨v, s, _, hd, by rw [Division.tally_eq]⟩
  obtain ⟨y, hy, hfate, rfl⟩ := mem_documents_tally.1 hid
  exact ⟨y.entry, hxs.mem_iff.1 (List.mem_map_of_mem hy), rfl, source?_tally hxs hy hfate⟩

/-- The lines of a listing, one for each document. -/
theorem Builds.exists_sourceText (h : (ofManifest root text).Builds x)
    (hknown : ∀ id ∈ ids, id ∈ x.documents) :
    ∃ ps : List (DocId × String), ps.map Prod.fst = ids ∧
      String.join (ids.map x.sourceLine) = joinLines (ps.map sourceText) ∧
      ∀ p ∈ ps, ∃ e ∈ (ofManifest root text).entries, e.id = p.1 ∧ e.url = p.2 := by
  induction ids with
  | nil => exact ⟨[], rfl, rfl, by simp⟩
  | cons id ids ih =>
    obtain ⟨e, he, rfl, hsource⟩ := h.exists_entry (hknown id List.mem_cons_self)
    obtain ⟨ps, rfl, hjoin, hps⟩ := ih fun i hi ↦ hknown i (List.mem_cons_of_mem _ hi)
    have hline : x.sourceLine e.id = sourceText (e.id, e.url) ++ "\n" := by
      rw [Index.sourceLine, hsource]
      rfl
    refine ⟨(e.id, e.url) :: ps, rfl, ?_, List.forall_mem_cons.2 ⟨⟨e, he, rfl, rfl⟩, hps⟩⟩
    rw [List.map_cons, String.join_cons, hjoin, hline, List.map_cons, joinLines_cons]

/-- **A listing with addresses can be read back.** Its first line is the list of the identifiers.
What follows, read as a manifest in whatever directory, has no failures and gives just these
documents, in this order; and the address of each is the one that the original manifest gives it. -/
theorem listing_is_read_back (h : (ofManifest root text).Builds x) (ids : List DocId)
    (hids : ids.Nodup) (hknown : ∀ id ∈ ids, id ∈ x.documents) :
    ∃ rest, x.listWithSources ids = listIds ids ++ "\n" ++ rest ∧ '\n' ∉ (listIds ids).toList ∧
      ∀ root', (ofManifest root' rest).failures = [] ∧
        (ofManifest root' rest).entries.map Entry.id = ids ∧
        ∀ e ∈ (ofManifest root' rest).entries,
          ∃ e' ∈ (ofManifest root text).entries, e'.id = e.id ∧ e'.url = e.url := by
  obtain ⟨ps, rfl, hjoin, hps⟩ := h.exists_sourceText hknown
  have hgood : ∀ p ∈ ps, IsSourceAddress p.2 := by
    intro p hp
    obtain ⟨e, he, -, hurl⟩ := hps p hp
    exact hurl ▸ isSourceAddress_of_mem he
  refine ⟨joinLines (ps.map sourceText), ?_, newline_not_mem_listIds _, fun root' ↦ ?_⟩
  · rw [Index.listWithSources, hjoin]
  have hentries : (ofManifest root' (joinLines (ps.map sourceText))).entries =
      ps.map fun p ↦ ⟨p.1, p.2, documentPath root' p.1⟩ := by
    rw [ofManifest, readManifest_sourceText hgood hids]
    simp [List.filterMap_map, Function.comp_def, entry?]
  have hfailures : (ofManifest root' (joinLines (ps.map sourceText))).failures = [] := by
    rw [ofManifest, readManifest_sourceText hgood hids]
    simp [List.filterMap_map, Function.comp_def, failure?]
  rw [hentries, List.map_map]
  refine ⟨hfailures, rfl, fun e he ↦ ?_⟩
  obtain ⟨p, hp, rfl⟩ := List.mem_map.1 he
  exact hps p hp

/-- A manifest whose addresses have tabs, carriage returns and other blanks in them. -/
def oddAddresses : String := "2 b\tc \u3000d\r\n\n+01  a\rx \n1 z\n"

/-- The index of its two documents. -/
def oddIndex : Index :=
  ((ofManifest ⟨""⟩ oddAddresses).survey twoPages ⟨.cyrillic, false⟩ .never).index

/-- The addresses have a carriage return, a tab and a wide space in them. -/
theorem listing_is_read_back_of_oddAddresses :
    ([1, 2] : List DocId).Nodup ∧ (∀ id ∈ ([1, 2] : List DocId), id ∈ oddIndex.documents) ∧
      oddIndex.listWithSources [1, 2] = "[1, 2]\n1\ta\rx\n2\tb\tc \u3000d\n" ∧
      ∃ rest, oddIndex.listWithSources [1, 2] = listIds [1, 2] ++ "\n" ++ rest ∧
        (ofManifest ⟨"copy"⟩ rest).failures = [] ∧
        (ofManifest ⟨"copy"⟩ rest).entries.map Entry.id = [1, 2] := by
  have hids : ([1, 2] : List DocId).Nodup := by decide
  have hdocuments : oddIndex.documents.toList = [1, 2] := by decide +kernel
  have hknown : ∀ id ∈ ([1, 2] : List DocId), id ∈ oddIndex.documents := by
    rw [← hdocuments]
    exact fun id hid ↦ hid
  have hbuilds : (ofManifest ⟨""⟩ oddAddresses).Builds oddIndex := .survey _ _ _
  obtain ⟨rest, hlisting, -, hread⟩ := listing_is_read_back hbuilds [1, 2] hids hknown
  exact ⟨hids, hknown, by decide +kernel, rest, hlisting, (hread ⟨"copy"⟩).1, (hread ⟨"copy"⟩).2.1⟩

end Corpus

end Concordance
