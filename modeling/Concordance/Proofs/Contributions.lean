import Mathlib.Data.Set.Card
import Concordance.Proofs.Merging
import Concordance.Proofs.OctetOrder
import Concordance.Proofs.Publications

/-!
# What indexes are made of

Named indexes are grown by facts and merged into one another, in any order and as often as one
likes, and the same index may be merged into several others and reach a third one through all of
them. An index is nevertheless made of the documents that were added, with their terms, to it or to
an index that went into it (`Contributes`), and of nothing else.

That a document occurs under a term, that it is known and that a term is known are three properties
of one kind: the empty index lacks them, certain facts bring them, and a merger has them if one of
its parts does (`Index.ComesWith`). One induction over histories serves all three
(`Index.ComesWith.slot_recordAll_iff`). As no term is without documents, postings and documents are
then determined by what contributes to them (`Index.Comprises.sameContents`), and whatever leaves
that alone leaves them alone: adding again, adding in another order, adding bit by bit.
-/

namespace Concordance

/-- What is done with named indexes while facts are gathered. -/
inductive Recording where
  /-- Record a fact in a named index. -/
  | fact (slot : String) (f : Index.Fact)
  /-- Merge another named index into a named index. -/
  | merge (slot other : String)

/-- The document was added with the terms to the named index, or to an index that was merged into it
afterwards, or into one that was. The latest recording comes first. -/
inductive Contributes (id : DocId) (ts : List String) : List Recording → String → Prop where
  /-- What is added to an index contributes to it. -/
  | added (past : List Recording) (slot : String) :
    Contributes id ts (.fact slot (.document id ts) :: past) slot
  /-- What contributed to an index contributes to those that it is merged into. -/
  | merged {past : List Recording} {other : String} (slot : String)
    (h : Contributes id ts past other) : Contributes id ts (.merge slot other :: past) slot
  /-- What contributed to an index goes on to do so. -/
  | kept {past : List Recording} {slot : String} (r : Recording)
    (h : Contributes id ts past slot) : Contributes id ts (r :: past) slot

namespace Workbench

/-- The workbench after a recording. -/
def record (w : Workbench) : Recording → Workbench
  | .fact slot (.document id ts) => w.add slot id ts
  | .fact slot (.source id url) => w.setSource slot id url
  | .merge slot other => w.merge slot other

/-- The workbench after several recordings, of which the latest comes first. -/
def recordAll (w : Workbench) : List Recording → Workbench
  | [] => w
  | r :: past => (w.recordAll past).record r

/-- A history continues from where an earlier one has come. -/
theorem recordAll_append (w : Workbench) (later past : List Recording) :
    w.recordAll (later ++ past) = (w.recordAll past).recordAll later := by
  induction later with
  | nil => rfl
  | cons r later ih => rw [List.cons_append, recordAll, ih, recordAll]

/-- A fact changes the index that it is recorded in. -/
theorem slot_record_fact (w : Workbench) (slot : String) (f : Index.Fact) (name : String) :
    (w.record (.fact slot f)).slot name =
      if name = slot then (w.slot slot).record f else w.slot name := by
  cases f <;> exact slot_setSlot ..

theorem slot_record_merge (w : Workbench) (slot other name : String) :
    (w.record (.merge slot other)).slot name =
      if name = slot then (w.slot slot).merge (w.slot other) else w.slot name :=
  slot_setSlot ..

end Workbench

/-! ### Contributions -/

section Contributes

variable {id : DocId} {ts : List String} {past : List Recording} {slot name other : String}
  {f : Index.Fact}

theorem not_contributes_nil : ¬Contributes id ts [] slot := nofun

/-- What contributes after a fact was recorded: the fact itself, and what did before. -/
theorem contributes_fact_iff :
    Contributes id ts (.fact slot f :: past) name ↔
      (slot = name ∧ f = .document id ts) ∨ Contributes id ts past name := by
  constructor
  · rintro (_ | _ | ⟨_, h⟩)
    · exact .inl ⟨rfl, rfl⟩
    · exact .inr h
  · rintro (⟨rfl, rfl⟩ | h)
    · exact .added past slot
    · exact .kept _ h

theorem contributes_merge_iff :
    Contributes id ts (.merge slot other :: past) name ↔
      (slot = name ∧ Contributes id ts past other) ∨ Contributes id ts past name := by
  constructor
  · rintro (_ | ⟨_, h⟩ | ⟨_, h⟩)
    · exact .inl ⟨rfl, h⟩
    · exact .inr h
  · rintro (⟨rfl, h⟩ | h)
    · exact .merged slot h
    · exact .kept _ h

/-- Of facts recorded in a row, each contributes to the index in which it is recorded. -/
theorem contributes_facts_iff {fs : List (String × Index.Fact)} :
    Contributes id ts (fs.map (fun p ↦ .fact p.1 p.2) ++ past) name ↔
      (name, .document id ts) ∈ fs ∨ Contributes id ts past name := by
  induction fs with
  | nil => simp
  | cons p fs ih =>
    obtain ⟨slot, f⟩ := p
    rw [List.map_cons, List.cons_append, contributes_fact_iff, ih, List.mem_cons, or_assoc,
      Prod.mk.injEq]
    simp only [eq_comm]

end Contributes

namespace Index

/-! ### Properties that come with facts -/

/-- A property that an index has because of the documents that were added to it and their terms. -/
structure ComesWith (P : Index → Prop) (Q : DocId → List String → Prop) : Prop where
  /-- The empty index does not have it. -/
  empty : ¬P ∅
  /-- Only documents whose terms are such bring it. -/
  record : ∀ (x : Index) (f : Fact), P (x.record f) ↔ (∃ id ts, f = .document id ts ∧ Q id ts) ∨ P x
  /-- A merger has it if one of its parts does. -/
  merge : ∀ x y : Index, P (x.merge y) ↔ P x ∨ P y

/-- That a document occurs under a term comes with the document and its terms. -/
theorem comesWith_posting (t : String) (i : DocId) :
    ComesWith (i ∈ ·.posting t) fun id ts ↦ id = i ∧ t ∈ ts where
  empty := not_mem_posting_empty
  record x f := by
    cases f with
    | document id ts => simpa [record, eq_comm] using mem_posting_add
    | source id url => simp [record]
  merge _ _ := mem_posting_merge

theorem comesWith_documents (i : DocId) : ComesWith (i ∈ ·.documents) fun id _ ↦ id = i where
  empty := not_mem_documents_empty
  record x f := by
    cases f with
    | document id ts => simp [record, eq_comm]
    | source id url => simp [record]
  merge _ _ := mem_documents_merge

theorem comesWith_keys (t : String) : ComesWith (t ∈ ·.postings.keys) fun _ ts ↦ t ∈ ts where
  empty := List.not_mem_nil
  record x f := by
    cases f with
    | document id ts => simpa [record] using mem_keys_add
    | source id url => simp [record, setSource]
  merge _ _ := mem_keys_merge

variable {P : Index → Prop} {Q : DocId → List String → Prop} {w : Workbench}

/-- **An index has such a property exactly if something that contributes to it brings it.** -/
theorem ComesWith.slot_recordAll_iff (h : ComesWith P Q) (hw : w.slots = ∅) (past : List Recording)
    (name : String) :
    P ((w.recordAll past).slot name) ↔ ∃ id ts, Contributes id ts past name ∧ Q id ts := by
  induction past generalizing name with
  | nil =>
    have hempty : w.slot name = ∅ := by rw [Workbench.slot, hw]; rfl
    simp [Workbench.recordAll, hempty, h.empty, not_contributes_nil]
  | cons r past ih =>
    rw [Workbench.recordAll]
    cases r with
    | fact slot f =>
      rw [Workbench.slot_record_fact]
      simp only [contributes_fact_iff]
      split
      · next hname =>
        subst hname
        simp only [h.record, ih, true_and, or_and_right, exists_or]
      · next hname => simp only [ih, Ne.symm hname, false_and, false_or]
    | merge slot other =>
      rw [Workbench.slot_record_merge]
      simp only [contributes_merge_iff]
      split
      · next hname =>
        subst hname
        simp only [h.merge, ih, true_and, or_and_right, exists_or]
        exact or_comm
      · next hname => simp only [ih, Ne.symm hname, false_and, false_or]

/-! ### Indexes made of contributions -/

/-- An index is made of documents with lists of terms. -/
structure Comprises (x : Index) (C : DocId → List String → Prop) : Prop where
  /-- A document is found under its terms. -/
  posting : ∀ t id, id ∈ x.posting t ↔ ∃ ts, C id ts ∧ t ∈ ts
  /-- The documents are known, with or without terms. -/
  documents : ∀ id, id ∈ x.documents ↔ ∃ ts, C id ts
  /-- The terms are known. -/
  keys : ∀ t, t ∈ x.postings.keys ↔ ∃ id ts, C id ts ∧ t ∈ ts
  /-- They are listed once each, in ascending order of their octets. -/
  ascending : x.postings.keys.Pairwise fun t u ↦ octetsOf t < octetsOf u
  /-- No term is without documents. -/
  nonempty : ∀ t ids, x.postings.find? t = some ids → ids ≠ ∅
  /-- As many terms are counted as there are. -/
  termCount : x.termCount = {t | ∃ id ts, C id ts ∧ t ∈ ts}.encard
  /-- As many documents are counted as there are. -/
  documentCount : x.documentCount = {id | ∃ ts, C id ts}.encard

/-- A list without repetitions is as long as its set is large. -/
private theorem length_eq_encard {α : Type} {l : List α} (h : l.Nodup) {p : α → Prop}
    (hmem : ∀ a, a ∈ l ↔ p a) : l.length = {a | p a}.encard := by
  classical
  have hset : {a | p a} = (l.toFinset : Set α) := by
    ext a
    simp [hmem]
  rw [hset, Set.encard_coe_eq_coe_finsetCard, List.toFinset_card_of_nodup h]

/-- The indexes of a history are made of what contributes to them. -/
theorem comprises_contributions (hw : w.slots = ∅) (past : List Recording) (name : String) :
    ((w.recordAll past).slot name).Comprises fun id ts ↦ Contributes id ts past name := by
  have hposting (t : String) (id : DocId) : id ∈ ((w.recordAll past).slot name).posting t ↔
      ∃ ts, Contributes id ts past name ∧ t ∈ ts := by
    rw [(comesWith_posting t id).slot_recordAll_iff hw]
    constructor
    · rintro ⟨_, ts, h, rfl, ht⟩
      exact ⟨ts, h, ht⟩
    · rintro ⟨ts, h, ht⟩
      exact ⟨id, ts, h, rfl, ht⟩
  have hdocuments (id : DocId) : id ∈ ((w.recordAll past).slot name).documents ↔
      ∃ ts, Contributes id ts past name := by
    rw [(comesWith_documents id).slot_recordAll_iff hw]
    simp
  have hkeys (t : String) : t ∈ ((w.recordAll past).slot name).postings.keys ↔
      ∃ id ts, Contributes id ts past name ∧ t ∈ ts :=
    (comesWith_keys t).slot_recordAll_iff hw past name
  generalize (w.recordAll past).slot name = x at hposting hdocuments hkeys
  have hascending := x.postings.ascending_keys
  exact
    { posting := hposting
      documents := hdocuments
      keys := hkeys
      ascending := hascending.imp octetsOf_lt_octetsOf
      nonempty := by
        rintro t ids ht rfl
        have hkey : t ∈ x.postings.keys := SortedMap.mem_keys_iff.2 (by rw [ht]; rfl)
        obtain ⟨id, ts, h, hts⟩ := (hkeys t).1 hkey
        have hid := (hposting t id).2 ⟨ts, h, hts⟩
        rw [Index.posting, ht] at hid
        exact SortedSet.not_mem_empty id hid
      termCount := by
        rw [← length_eq_encard (hascending.imp Std.ne_of_lt) hkeys, SortedMap.keys,
          List.length_map]
        rfl
      documentCount :=
        length_eq_encard (x.documents.ascending.imp Std.ne_of_lt) hdocuments }

/-- Two indexes have the same postings and the same documents. Their addresses do not matter. -/
structure SameContents (x y : Index) : Prop where
  /-- The same documents are found under the same terms. -/
  postings : x.postings = y.postings
  /-- The same documents are known. -/
  documents : x.documents = y.documents

variable {x y : Index} {C D : DocId → List String → Prop}

/-- What is found under a term, unless the term is not known. -/
theorem Comprises.find?_eq (h : x.Comprises C) (t : String) :
    x.postings.find? t = if x.posting t = ∅ then none else some (x.posting t) := by
  rw [Index.posting]
  cases ht : x.postings.find? t with
  | none => rfl
  | some ids => exact (if_neg (h.nonempty t ids ht)).symm

/-- **Indexes that are made of the same documents under the same terms are the same**, but for their
addresses. -/
theorem Comprises.sameContents (hx : x.Comprises C) (hy : y.Comprises D)
    (hdocuments : ∀ id, (∃ ts, C id ts) ↔ ∃ ts, D id ts)
    (hterms : ∀ id t, (∃ ts, C id ts ∧ t ∈ ts) ↔ ∃ ts, D id ts ∧ t ∈ ts) : x.SameContents y where
  postings := SortedMap.ext fun t ↦ by
    have hposting : x.posting t = y.posting t := SortedSet.ext fun id ↦ by
      rw [hx.posting, hy.posting, hterms]
    rw [hx.find?_eq, hy.find?_eq, hposting]
  documents := SortedSet.ext fun id ↦ by rw [hx.documents, hy.documents, hdocuments]

namespace SameContents

theorem record (h : x.SameContents y) (f : Fact) : (x.record f).SameContents (y.record f) := by
  cases f with
  | document id ts =>
    exact ⟨congrArg (addPostings id · ts) h.postings, congrArg (·.insert id) h.documents⟩
  | source id url => exact ⟨h.postings, h.documents⟩

theorem merge {x' y' : Index} (h : x.SameContents y) (h' : x'.SameContents y') :
    (x.merge x').SameContents (y.merge y') :=
  ⟨congrArg₂ (SortedMap.mergeWith SortedSet.union) h.postings h'.postings,
    congrArg₂ SortedSet.union h.documents h'.documents⟩

end SameContents

/-- Terms may be added bit by bit. -/
theorem add_append (x : Index) (id : DocId) (ts us : List String) :
    x.add id (ts ++ us) = (x.add id ts).add id us := by
  show Index.mk _ _ _ = Index.mk _ _ _
  congr 1
  · exact List.foldl_append
  · exact SortedSet.ext fun i ↦ by simp

end Index

/-! ### Histories -/

namespace Workbench

variable {w v : Workbench}

/-- The named indexes of two workbenches have the same postings and the same documents. -/
def SameContents (w v : Workbench) : Prop :=
  ∀ name, (w.slot name).SameContents (v.slot name)

namespace SameContents

/-- Addresses do not matter to what is recorded next. -/
theorem record (h : w.SameContents v) (r : Recording) : (w.record r).SameContents (v.record r) := by
  intro name
  cases r with
  | fact slot f =>
    rw [slot_record_fact, slot_record_fact]
    split
    · exact (h slot).record f
    · exact h name
  | merge slot other =>
    rw [slot_record_merge, slot_record_merge]
    split
    · exact (h slot).merge (h other)
    · exact h name

/-- Nor do they matter to what is recorded from then on. -/
theorem recordAll_append {past past' : List Recording}
    (h : (w.recordAll past).SameContents (v.recordAll past')) (later : List Recording) :
    (w.recordAll (later ++ past)).SameContents (v.recordAll (later ++ past')) := by
  rw [Workbench.recordAll_append, Workbench.recordAll_append]
  induction later with
  | nil => exact h
  | cons r later ih => exact ih.record r

end SameContents

/-- Histories in which the same documents with the same terms contribute to each index lead to the
same contents. -/
theorem sameContents_of_contributes {past past' : List Recording} (hw : w.slots = ∅)
    (h : ∀ id ts name, Contributes id ts past name ↔ Contributes id ts past' name) :
    (w.recordAll past).SameContents (w.recordAll past') := fun name ↦
  (Index.comprises_contributions hw past name).sameContents
    (Index.comprises_contributions hw past' name)
    (fun id ↦ exists_congr fun ts ↦ h id ts name)
    fun id _ ↦ exists_congr fun ts ↦ and_congr_left fun _ ↦ h id ts name

/-- Named indexes, as they come about by facts and mergers. -/
structure Gathers (w : Workbench) : Prop where
  /-- An index is made of what contributes to it. -/
  comprises : ∀ past name,
    ((w.recordAll past).slot name).Comprises fun id ts ↦ Contributes id ts past name
  /-- Indexes to which the same documents under the same terms contribute, in one history or in two,
  are the same but for their addresses. -/
  determined : ∀ past name past' name',
    (∀ id, (∃ ts, Contributes id ts past name) ↔ ∃ ts, Contributes id ts past' name') →
    (∀ id t, (∃ ts, Contributes id ts past name ∧ t ∈ ts) ↔
      ∃ ts, Contributes id ts past' name' ∧ t ∈ ts) →
    ((w.recordAll past).slot name).SameContents ((w.recordAll past').slot name')
  /-- To add again what contributes already changes nothing, then or later. -/
  repeated : ∀ later past slot id ts, Contributes id ts past slot →
    (w.recordAll (later ++ .fact slot (.document id ts) :: past)).SameContents
      (w.recordAll (later ++ past))
  /-- The order in which facts are recorded in a row does not matter. -/
  reordered : ∀ later past, ∀ fs fs' : List (String × Index.Fact), fs.Perm fs' →
    (w.recordAll (later ++ (fs.map (fun p ↦ .fact p.1 p.2) ++ past))).SameContents
      (w.recordAll (later ++ (fs'.map (fun p ↦ .fact p.1 p.2) ++ past)))
  /-- Terms may be added bit by bit. -/
  split : ∀ later past slot id ts us,
    (w.recordAll (later ++ .fact slot (.document id (ts ++ us)) :: past)).SameContents
      (w.recordAll
        (later ++ .fact slot (.document id us) :: .fact slot (.document id ts) :: past))
  /-- Addresses change nothing. -/
  sources : ∀ later past slot id url,
    (w.recordAll (later ++ .fact slot (.source id url) :: past)).SameContents
      (w.recordAll (later ++ past))

/-- **An index means the facts that were put into it**, whatever was added to which index and merged
into which, in whatever order. -/
theorem indexes_mean_their_facts (hw : w.slots = ∅) : w.Gathers where
  comprises := Index.comprises_contributions hw
  determined past name past' name' :=
    (Index.comprises_contributions hw past name).sameContents
      (Index.comprises_contributions hw past' name')
  repeated later past slot id ts h := by
    refine SameContents.recordAll_append (sameContents_of_contributes hw fun i us name ↦ ?_) later
    rw [contributes_fact_iff, or_iff_right_iff_imp]
    rintro ⟨rfl, hf⟩
    obtain ⟨rfl, rfl⟩ := Index.Fact.document.inj hf
    exact h
  reordered later past fs fs' h := by
    refine SameContents.recordAll_append (sameContents_of_contributes hw fun i us name ↦ ?_) later
    rw [contributes_facts_iff, contributes_facts_iff, h.mem_iff]
  split later past slot id ts us := by
    refine SameContents.recordAll_append (fun name ↦ ?_) later
    have hsplit : (w.recordAll (.fact slot (.document id (ts ++ us)) :: past)).slot name =
        (w.recordAll
          (.fact slot (.document id us) :: .fact slot (.document id ts) :: past)).slot name := by
      simp only [recordAll, slot_record_fact, if_pos, Index.record, Index.add_append]
      split <;> rfl
    rw [hsplit]
    exact ⟨rfl, rfl⟩
  sources later past slot id url := by
    refine SameContents.recordAll_append (fun name ↦ ?_) later
    rw [recordAll, slot_record_fact]
    split
    · next hname =>
      subst hname
      exact ⟨rfl, rfl⟩
    · exact ⟨rfl, rfl⟩

/-- An index that reaches another one through two others. The latest recording comes first. -/
def sharing : List Recording :=
  [.merge "all" "right", .merge "all" "left", .fact "right" (.document 3 ["пёс"]),
    .merge "right" "shared", .merge "left" "shared", .fact "shared" (.source 1 "a"),
    .fact "shared" (.document 1 ["кот", "пёс"])]

/-- What was added once and came in twice is there once; what was added after a merger stayed away
from the other part; and to add the shared document to the whole changes nothing. -/
theorem indexes_mean_their_facts_of_sharing :
    bare.slots = ∅ ∧
      (∃ ts, Contributes 1 ts sharing "all" ∧ "кот" ∈ ts) ∧
      (¬∃ ts, Contributes 3 ts sharing "left") ∧
      {t | ∃ id ts, Contributes id ts sharing "all" ∧ t ∈ ts}.encard = 2 ∧
      {id | ∃ ts, Contributes id ts sharing "all"}.encard = 2 ∧
      (bare.recordAll (.fact "all" (.document 1 ["кот", "пёс"]) :: sharing)).SameContents
        (bare.recordAll sharing) := by
  have hgathers := indexes_mean_their_facts (w := bare) rfl
  have hall := hgathers.comprises sharing "all"
  have hleft := hgathers.comprises sharing "left"
  refine ⟨rfl, (hall.posting "кот" 1).1 (by decide +kernel), ?_, ?_, ?_, ?_⟩
  · rw [← hleft.documents]
    decide +kernel
  · rw [← hall.termCount]
    exact congrArg _ (by decide +kernel : ((bare.recordAll sharing).slot "all").termCount = 2)
  · rw [← hall.documentCount]
    exact congrArg _ (by decide +kernel : ((bare.recordAll sharing).slot "all").documentCount = 2)
  · refine hgathers.repeated [] sharing "all" 1 ["кот", "пёс"] ?_
    exact .kept _ (.merged _ (.kept _ (.kept _ (.merged _ (.kept _ (.added _ _))))))

end Workbench

end Concordance
