import Concordance.Proofs.Ordered
import Concordance.Index.Basic

/-!
# What an index holds

An index is the set of the facts put into it. Three kinds of statements make that precise.

* What a term or a document is found in after a fact was added (`mem_posting_add`,
  `mem_documents_add`), for one fact and for a list of them, and after a merger
  (`mem_posting_merge`); and which terms there are (`mem_keys_add`, `mem_keys_merge`).
* Adding to the second part of a merger is adding to the whole (`merge_add`, `merge_setSource`), so
  an index that was put together from parts is the index of all their facts in a row.
* Facts about different documents may be added in either order (`add_comm`, `setSource_comm`).

`Covered` says that the postings lie inside the documents. Everything that only adds facts keeps it.
-/

namespace Concordance

namespace Index

/-! ### Postings -/

/-- The postings with `id` added to those of each of the terms. -/
def addPostings (id : DocId) (m : SortedMap String (SortedSet DocId)) (ts : List String) :
    SortedMap String (SortedSet DocId) :=
  ts.foldl (addPosting id) m

@[simp] theorem addPostings_nil (id : DocId) (m : SortedMap String (SortedSet DocId)) :
    addPostings id m [] = m := rfl

@[simp] theorem addPostings_cons (id : DocId) (m : SortedMap String (SortedSet DocId))
    (t : String) (ts : List String) :
    addPostings id m (t :: ts) = addPostings id (addPosting id m t) ts := rfl

/-- The posting of one term is added to, and no other. -/
theorem mem_find?_addPosting {i id : DocId} {m : SortedMap String (SortedSet DocId)}
    {t u : String} :
    i ∈ ((addPosting id m u).find? t).getD ∅ ↔ (i = id ∧ t = u) ∨ i ∈ (m.find? t).getD ∅ := by
  rw [addPosting, SortedMap.find?_alter]
  by_cases h : t = u
  · subst h
    simp
  · simp [h]

/-- By induction on the list, a term that is repeated in it counts as one. -/
theorem mem_find?_addPostings {i id : DocId} {m : SortedMap String (SortedSet DocId)}
    {t : String} {ts : List String} :
    i ∈ ((addPostings id m ts).find? t).getD ∅ ↔
      (i = id ∧ t ∈ ts) ∨ i ∈ (m.find? t).getD ∅ := by
  induction ts generalizing m with
  | nil => simp
  | cons u ts ih =>
    rw [addPostings_cons, ih, mem_find?_addPosting, List.mem_cons, and_or_left, or_assoc,
      or_left_comm]

/-- A term occurs in the document it was added for, and otherwise where it occurred before. -/
theorem mem_posting_add {i id : DocId} {x : Index} {ts : List String} {t : String} :
    i ∈ (x.add id ts).posting t ↔ (i = id ∧ t ∈ ts) ∨ i ∈ x.posting t :=
  mem_find?_addPostings

@[simp] theorem mem_documents_add {i id : DocId} {x : Index} {ts : List String} :
    i ∈ (x.add id ts).documents ↔ i = id ∨ i ∈ x.documents :=
  SortedSet.mem_insert

@[simp] theorem posting_setSource (x : Index) (id : DocId) (url t : String) :
    (x.setSource id url).posting t = x.posting t := rfl

@[simp] theorem documents_setSource (x : Index) (id : DocId) (url : String) :
    (x.setSource id url).documents = x.documents := rfl

@[simp] theorem not_mem_posting_empty {i : DocId} {t : String} : i ∉ (∅ : Index).posting t :=
  SortedSet.not_mem_empty i

@[simp] theorem not_mem_documents_empty {i : DocId} : i ∉ (∅ : Index).documents :=
  SortedSet.not_mem_empty i

/-! ### Merging -/

/-- Merging with the empty index on the right changes nothing. -/
@[simp] theorem merge_empty (x : Index) : x.merge ∅ = x := by
  show Index.mk _ _ _ = x
  rw [show (∅ : Index).postings = ∅ from rfl, show (∅ : Index).documents = ∅ from rfl,
    show (∅ : Index).sources = ∅ from rfl, SortedMap.mergeWith_empty, SortedSet.union_empty,
    SortedMap.mergeWith_empty]

/-- A fact may be added to the second part of a merger or to the whole. -/
private theorem mergeWith_addPosting (id : DocId) (m n : SortedMap String (SortedSet DocId))
    (t : String) :
    m.mergeWith SortedSet.union (addPosting id n t) =
      addPosting id (m.mergeWith SortedSet.union n) t := by
  refine SortedMap.mergeWith_alter (fun a o ↦ ?_) m n t
  cases a with
  | none => simp
  | some s =>
    cases o with
    | none => simp [SortedSet.union_insert, SortedSet.union_empty]
    | some s' => simp [SortedSet.union_insert]

private theorem mergeWith_addPostings (id : DocId) (m n : SortedMap String (SortedSet DocId))
    (ts : List String) :
    m.mergeWith SortedSet.union (addPostings id n ts) =
      addPostings id (m.mergeWith SortedSet.union n) ts := by
  induction ts generalizing n with
  | nil => rfl
  | cons t ts ih => rw [addPostings_cons, ih, mergeWith_addPosting, addPostings_cons]

/-- **A document added to the second part of a merger is added to the whole.** -/
theorem merge_add (x y : Index) (id : DocId) (ts : List String) :
    x.merge (y.add id ts) = (x.merge y).add id ts := by
  show Index.mk _ _ _ = Index.mk _ _ _
  congr 1
  · exact mergeWith_addPostings id x.postings y.postings ts
  · exact SortedSet.union_insert x.documents y.documents id

/-- An address recorded in the second part of a merger is recorded in the whole, because the second
part counts where both have one. -/
theorem merge_setSource (x y : Index) (id : DocId) (url : String) :
    x.merge (y.setSource id url) = (x.merge y).setSource id url := by
  show Index.mk _ _ _ = Index.mk _ _ _
  congr 1
  refine SortedMap.mergeWith_alter (fun a o ↦ ?_) x.sources y.sources id
  cases a <;> simp

/-- A term occurs in a merger where it occurs in one of the parts. -/
theorem mem_posting_merge {i : DocId} {x y : Index} {t : String} :
    i ∈ (x.merge y).posting t ↔ i ∈ x.posting t ∨ i ∈ y.posting t := by
  have hfind := SortedMap.find?_mergeWith SortedSet.union x.postings y.postings t
  rw [posting, posting, posting, merge, hfind]
  cases x.postings.find? t with
  | none => simp
  | some s => cases y.postings.find? t <;> simp

theorem mem_documents_merge {i : DocId} {x y : Index} :
    i ∈ (x.merge y).documents ↔ i ∈ x.documents ∨ i ∈ y.documents :=
  SortedSet.mem_union

/-! ### The order of facts -/

/-- Two facts may be added in either order, also about the same term or document. -/
private theorem addPosting_comm (i j : DocId) (m : SortedMap String (SortedSet DocId))
    (t u : String) :
    addPosting j (addPosting i m t) u = addPosting i (addPosting j m u) t := by
  refine SortedMap.alter_comm (fun _ o ↦ ?_) m
  simp [SortedSet.insert_comm]

private theorem addPostings_addPosting_comm (i j : DocId)
    (m : SortedMap String (SortedSet DocId)) (ts : List String) (u : String) :
    addPosting j (addPostings i m ts) u = addPostings i (addPosting j m u) ts := by
  induction ts generalizing m with
  | nil => rfl
  | cons t ts ih => rw [addPostings_cons, ih, addPosting_comm, addPostings_cons]

private theorem addPostings_comm (i j : DocId) (m : SortedMap String (SortedSet DocId))
    (ts us : List String) :
    addPostings j (addPostings i m ts) us = addPostings i (addPostings j m us) ts := by
  induction us generalizing m with
  | nil => rfl
  | cons u us ih => rw [addPostings_cons, addPostings_addPosting_comm, ih, addPostings_cons]

/-- Documents may be added in either order. -/
theorem add_comm (x : Index) (i j : DocId) (ts us : List String) :
    (x.add i ts).add j us = (x.add j us).add i ts := by
  show Index.mk _ _ _ = Index.mk _ _ _
  congr 1
  · exact addPostings_comm i j x.postings ts us
  · exact SortedSet.insert_comm x.documents i j

/-- Addresses of different documents may be recorded in either order. -/
theorem setSource_comm (x : Index) {i j : DocId} (h : i ≠ j) (url url' : String) :
    (x.setSource i url).setSource j url' = (x.setSource j url').setSource i url := by
  show Index.mk _ _ _ = Index.mk _ _ _
  congr 1
  exact SortedMap.alter_comm (fun hji ↦ absurd hji.symm h) x.sources

theorem add_setSource_comm (x : Index) (i j : DocId) (url : String) (ts : List String) :
    (x.setSource i url).add j ts = (x.add j ts).setSource i url := rfl

/-! ### Terms of an index -/

/-- A term has a posting as soon as it is added. -/
theorem isSome_find?_addPostings {id : DocId} {m : SortedMap String (SortedSet DocId)} {t : String}
    {ts : List String} :
    ((addPostings id m ts).find? t).isSome = true ↔ t ∈ ts ∨ (m.find? t).isSome = true := by
  induction ts generalizing m with
  | nil => simp
  | cons u ts ih =>
    have hu : ((addPosting id m u).find? t).isSome = true ↔ t = u ∨ (m.find? t).isSome = true := by
      rw [addPosting, SortedMap.find?_alter]
      by_cases h : t = u <;> simp [h]
    rw [addPostings_cons, ih, hu, List.mem_cons, or_assoc, or_left_comm]

/-- The terms of an index are those it had and those that were added. -/
theorem mem_keys_add {id : DocId} {x : Index} {ts : List String} {t : String} :
    t ∈ (x.add id ts).postings.keys ↔ t ∈ ts ∨ t ∈ x.postings.keys := by
  rw [SortedMap.mem_keys_iff, SortedMap.mem_keys_iff]
  exact isSome_find?_addPostings

/-- The terms of a merger are those of its parts. -/
theorem mem_keys_merge {x y : Index} {t : String} :
    t ∈ (x.merge y).postings.keys ↔ t ∈ x.postings.keys ∨ t ∈ y.postings.keys := by
  have hfind := SortedMap.find?_mergeWith SortedSet.union x.postings y.postings t
  rw [SortedMap.mem_keys_iff, SortedMap.mem_keys_iff, SortedMap.mem_keys_iff, merge, hfind]
  cases x.postings.find? t with
  | none => simp
  | some s => cases y.postings.find? t <;> simp

/-! ### Covered indexes -/

/-- The postings lie inside the documents. -/
def Covered (x : Index) : Prop :=
  ∀ t id, id ∈ x.posting t → id ∈ x.documents

theorem covered_empty : Covered ∅ := fun _ _ h ↦ absurd h not_mem_posting_empty

/-- A document is added together with its postings, so that an index stays covered. -/
theorem Covered.add {x : Index} (h : x.Covered) (id : DocId) (ts : List String) :
    (x.add id ts).Covered := by
  intro t i hi
  rcases mem_posting_add.1 hi with ⟨rfl, -⟩ | hi
  · exact mem_documents_add.2 (.inl rfl)
  · exact mem_documents_add.2 (.inr (h t i hi))

theorem Covered.setSource {x : Index} (h : x.Covered) (id : DocId) (url : String) :
    (x.setSource id url).Covered := h

/-- Parts that are covered are covered together. -/
theorem Covered.merge {x y : Index} (hx : x.Covered) (hy : y.Covered) : (x.merge y).Covered := by
  intro t id hid
  rcases mem_posting_merge.1 hid with hid | hid
  · exact mem_documents_merge.2 (.inl (hx t id hid))
  · exact mem_documents_merge.2 (.inr (hy t id hid))

/-- An index is covered if every set of its postings is. -/
theorem covered_iff {x : Index} :
    x.Covered ↔ ∀ t ids, x.postings.find? t = some ids → ∀ id ∈ ids, id ∈ x.documents := by
  constructor
  · intro h t ids ht id hid
    refine h t id ?_
    rw [posting, ht]
    exact hid
  · intro h t id hid
    rw [posting] at hid
    cases ht : x.postings.find? t with
    | none => rw [ht] at hid; exact absurd hid (SortedSet.not_mem_empty id)
    | some ids => rw [ht] at hid; exact h t ids ht id hid

/-- The check that is made of an index put together from parts. -/
theorem isCovered_eq_true_iff {x : Index} : x.isCovered = true ↔ x.Covered := by
  rw [isCovered, List.all_eq_true, covered_iff]
  simp only [SortedSet.isSubset_eq_true_iff, Prod.forall, SortedMap.mem_pairs_iff]

end Index

end Concordance
