import Concordance.Proofs.Index

/-!
# Merging indexes

A fact that is recorded in the second part of a merger is recorded in the whole (`merge_record`), so
a merger records the facts of its second part behind those of the first (`merge_recordAll`): to
merge two indexes is to go on with the facts of the second where the first one ended. Merging is
associative, as the order of the facts is the same however they are grouped.

Whether the order of the parts matters depends on the addresses alone. Postings and documents are
united, and a union has no order; but of two addresses of one document only that of the second part
is kept. So a merger does not show the order of its parts exactly if they agree about the addresses
of the documents for which both have one.
-/

namespace Concordance

namespace Index

/-! ### Recording facts -/

/-- A fact that is recorded in an index. -/
inductive Fact where
  /-- The terms occur in the document. -/
  | document (id : DocId) (terms : List String)
  /-- The document came from the address. -/
  | source (id : DocId) (url : String)

/-- The index after a fact was recorded. -/
def record (x : Index) : Fact → Index
  | .document id terms => x.add id terms
  | .source id url => x.setSource id url

/-- The index after several facts were recorded, first fact first. -/
def recordAll (x : Index) (fs : List Fact) : Index :=
  fs.foldl record x

variable {x y z : Index} {id : DocId}

theorem recordAll_cons (x : Index) (f : Fact) (fs : List Fact) :
    x.recordAll (f :: fs) = (x.record f).recordAll fs := rfl

/-- A fact recorded in the second part of a merger is recorded in the whole. -/
theorem merge_record (x y : Index) (f : Fact) : x.merge (y.record f) = (x.merge y).record f := by
  cases f with
  | document id terms => exact merge_add x y id terms
  | source id url => exact merge_setSource x y id url

/-- **A merger goes on with the facts of its second part.** -/
theorem merge_recordAll (x y : Index) (fs : List Fact) :
    x.merge (y.recordAll fs) = (x.merge y).recordAll fs := by
  induction fs generalizing y with
  | nil => rfl
  | cons f fs ih => rw [recordAll_cons, ih, merge_record, recordAll_cons]

/-! ### Laws of merging -/

theorem empty_merge (x : Index) : (∅ : Index).merge x = x := by
  show Index.mk _ _ _ = x
  rw [show (∅ : Index).postings = ∅ from rfl, show (∅ : Index).documents = ∅ from rfl,
    show (∅ : Index).sources = ∅ from rfl, SortedMap.empty_mergeWith, SortedSet.union_comm,
    SortedSet.union_empty, SortedMap.empty_mergeWith]

/-- **Merging is associative**, field by field. -/
theorem merge_assoc (x y z : Index) : (x.merge y).merge z = x.merge (y.merge z) := by
  show Index.mk _ _ _ = Index.mk _ _ _
  congr 1
  · exact SortedMap.mergeWith_assoc SortedSet.union_assoc x.postings y.postings z.postings
  · exact SortedSet.union_assoc x.documents y.documents z.documents
  · exact SortedMap.mergeWith_assoc (fun _ _ _ ↦ rfl) x.sources y.sources z.sources

/-- **Merging is recording one after the other.** The facts of two lists, recorded in a row, come to
the merger of the indexes of the two lists, whatever they have in common. Merging is associative,
and the empty index changes nothing on either side. -/
theorem merging_is_recording_in_a_row (fs gs : List Fact) :
    ((∅ : Index).recordAll fs).recordAll gs =
        ((∅ : Index).recordAll fs).merge ((∅ : Index).recordAll gs) ∧
      (∀ x y z : Index, (x.merge y).merge z = x.merge (y.merge z)) ∧
      ∀ x : Index, (∅ : Index).merge x = x ∧ x.merge ∅ = x := by
  refine ⟨?_, merge_assoc, fun x ↦ ⟨empty_merge x, merge_empty x⟩⟩
  rw [merge_recordAll, merge_empty]

/-! ### The order of the parts -/

/-- Postings are united, and so in either order. -/
theorem postings_merge_comm (x y : Index) : (x.merge y).postings = (y.merge x).postings :=
  SortedMap.mergeWith_comm SortedSet.union_comm x.postings y.postings

theorem documents_merge_comm (x y : Index) : (x.merge y).documents = (y.merge x).documents :=
  SortedSet.union_comm x.documents y.documents

/-- The address of a document in a merger is that of the second part, if it has one. -/
theorem source?_merge (x y : Index) (id : DocId) :
    (x.merge y).source? id = (y.source? id).or (x.source? id) :=
  SortedMap.find?_mergeWith_second x.sources y.sources id

/-- The parts agree about the addresses of the documents for which both have one. -/
def AgreeOnSources (x y : Index) : Prop :=
  ∀ id url url', x.source? id = some url → y.source? id = some url' → url = url'

/-- Of two optional values either is kept, if they are the same where there are both. -/
private theorem or_comm_iff {α : Type} {o p : Option α} :
    p.or o = o.or p ↔ ∀ u v, o = some u → p = some v → u = v := by
  rcases o with - | u <;> rcases p with - | v
  · simp
  · simp
  · simp
  · simp [eq_comm]

/-- The addresses of a merger do not show the order of its parts exactly if these agree. -/
theorem sources_merge_comm_iff :
    (x.merge y).sources = (y.merge x).sources ↔ x.AgreeOnSources y := by
  have hsame : (x.merge y).sources = (y.merge x).sources ↔
      ∀ id, (x.merge y).source? id = (y.merge x).source? id :=
    ⟨fun h id ↦ congrArg (·.find? id) h, SortedMap.ext⟩
  rw [hsame]
  refine forall_congr' fun id ↦ ?_
  rw [source?_merge, source?_merge, or_comm_iff]

/-- **The order of two parts shows in the addresses only.** Whichever index is merged into the
other, terms occur in the same documents and the same documents are known. Where both have an
address for a document, that of the second part is kept; so the mergers are equal exactly if the
parts agree about such addresses. -/
theorem merging_commutes_but_for_sources (x y : Index) :
    (x.merge y).postings = (y.merge x).postings ∧
      (x.merge y).documents = (y.merge x).documents ∧
      (∀ id, (x.merge y).source? id = (y.source? id).or (x.source? id)) ∧
      (x.merge y = y.merge x ↔
        ∀ id url url', x.source? id = some url → y.source? id = some url' → url = url') := by
  refine ⟨postings_merge_comm x y, documents_merge_comm x y, source?_merge x y, ?_⟩
  show x.merge y = y.merge x ↔ x.AgreeOnSources y
  rw [← sources_merge_comm_iff]
  constructor
  · intro h
    rw [h]
  · intro h
    show Index.mk _ _ _ = Index.mk _ _ _
    congr 1
    · exact postings_merge_comm x y
    · exact documents_merge_comm x y

/-- **The second of two addresses is kept**, so two indexes with different addresses for one
document are merged into different indexes, one way and the other. -/
theorem second_address_is_kept :
    (((∅ : Index).recordAll [.source 7 "a"]).merge
        ((∅ : Index).recordAll [.source 7 "b"])).source? 7 = some "b" ∧
      (((∅ : Index).recordAll [.source 7 "b"]).merge
        ((∅ : Index).recordAll [.source 7 "a"])).source? 7 = some "a" ∧
      ((∅ : Index).recordAll [.source 7 "a"]).merge ((∅ : Index).recordAll [.source 7 "b"]) ≠
        ((∅ : Index).recordAll [.source 7 "b"]).merge ((∅ : Index).recordAll [.source 7 "a"]) := by
  decide

end Index

end Concordance
