import Concordance.DocId
import Concordance.Ordered.Map

/-!
# Indexes

An index holds, for each term, the documents in which the term occurs; the documents it knows, with
or without terms; and the addresses they came from. All three are ordered containers, so an index is
determined by the facts put into it and not by the order in which they came: equality of indexes is
equality of facts.

Nothing ties the parts together in the type. An index grown by `add` is *covered*, its postings lie
inside its documents, and an index put together from parts is checked for it.
-/

namespace Concordance

/-- The documents of a collection, by the terms that occur in them. -/
structure Index where
  /-- The documents in which each term occurs. -/
  postings : SortedMap String (SortedSet DocId)
  /-- All documents, also those without terms. -/
  documents : SortedSet DocId
  /-- The addresses that documents came from. -/
  sources : SortedMap DocId String
  deriving DecidableEq

namespace Index

/-- The index without documents. -/
def empty : Index := ⟨∅, ∅, ∅⟩

instance : EmptyCollection Index := ⟨empty⟩

instance : Inhabited Index := ⟨empty⟩

/-- The documents in which a term occurs. -/
def posting (x : Index) (t : String) : SortedSet DocId :=
  (x.postings.find? t).getD ∅

/-- The address that a document came from. -/
def source? (x : Index) (id : DocId) : Option String :=
  x.sources.find? id

/-- The number of terms. -/
def termCount (x : Index) : Nat := x.postings.size

/-- The number of documents. -/
def documentCount (x : Index) : Nat := x.documents.size

/-- Are there no documents? -/
def isEmpty (x : Index) : Bool := x.documents.isEmpty

/-- The postings with `id` added to those of `t`. -/
def addPosting (id : DocId) (m : SortedMap String (SortedSet DocId)) (t : String) :
    SortedMap String (SortedSet DocId) :=
  m.alter t fun o ↦ some ((o.getD ∅).insert id)

/-- The index after recording that the terms occur in the document `id`. Without terms the document
becomes known all the same. -/
def add (x : Index) (id : DocId) (terms : List String) : Index :=
  { x with
    postings := terms.foldl (addPosting id) x.postings
    documents := x.documents.insert id }

/-- The index after recording the address of a document. -/
def setSource (x : Index) (id : DocId) (url : String) : Index :=
  { x with sources := x.sources.insert id url }

/-- The facts of two indexes. Where both have an address for a document, that of the second
counts. -/
def merge (x y : Index) : Index where
  postings := x.postings.mergeWith SortedSet.union y.postings
  documents := x.documents.union y.documents
  sources := x.sources.mergeWith (fun _ url ↦ url) y.sources

/-- Is every posting inside the documents? -/
def isCovered (x : Index) : Bool :=
  x.postings.pairs.all fun p ↦ p.2.isSubset x.documents

/-- An index put together from parts, unless a posting lies outside the documents. -/
def ofParts? (postings : SortedMap String (SortedSet DocId)) (documents : SortedSet DocId)
    (sources : SortedMap DocId String) : Option Index :=
  let x : Index := ⟨postings, documents, sources⟩
  if x.isCovered then some x else none

end Index

end Concordance
