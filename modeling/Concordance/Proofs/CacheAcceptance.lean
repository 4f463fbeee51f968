import Concordance.Proofs.CacheStorage
import Concordance.Proofs.Json.Meaning
import Concordance.Proofs.Json.Soundness
import Concordance.Workbench

/-!
# Which caches are accepted

A declarative account of the layout of cache documents: which fields a document has, and when the
value of a field says what the record says there (`Describes`). The decoder is shown to accept this
layout and no other, part by part (`ofJson?_eq_some_iff`). Together with the grammar this settles
what is loaded from a path, whatever octets are there: nothing but a document of a record that can
be used is accepted, and what it says is taken over as it stands
(`loadCache?_eq_some_iff_isDocumentOf`).
-/

namespace Concordance

open Json

namespace CacheRecord

/-! ### The layout -/

/-- The value lists the documents, by their numbers and in any order. -/
def ListsDocuments (v : RawJson) (ids : SortedSet DocId) : Prop :=
  ∃ l : List DocId, v = .array (l.map fun id ↦ .number (natural id.toNat)) ∧ ∀ id, id ∈ ids ↔ id ∈ l

/-- The value names the alphabet, as a text or as the only member of an object. -/
def NamesAlphabet (v : RawJson) (a : Alphabet) : Prop :=
  ∃ l, StandsFor l (octetsOf a.name) ∧ (v = .text l ∨ v = .object [(l, .null)])

/-- The value gives the settings. -/
def GivesSettings (v : RawJson) (s : Settings) : Prop :=
  ∃ fields, HasFields ["alphabet", "strip_markup"] v fields ∧
    (∃ w, fields.lookup "alphabet" = some w ∧ NamesAlphabet w s.alphabet) ∧
    fields.lookup "strip_markup" = some (.bool s.stripMarkup)

/-- The value gives the postings: a member for each term, the last of which counts. -/
def GivesPostings (v : RawJson) (postings : SortedMap String (SortedSet DocId)) : Prop :=
  ∃ members named l, v = .object members ∧ AreNamed members named ∧
    List.Forall₂ (fun m p ↦ m.1 = p.1 ∧ ListsDocuments m.2 p.2) named l ∧
    ∀ t, postings.find? t = l.reverse.lookup t

/-- The value gives the sources: a member for each document, the last of which counts. -/
def GivesSources (v : RawJson) (sources : SortedMap DocId String) : Prop :=
  ∃ members l, v = .object members ∧
    List.Forall₂ (fun m p ↦ m.1 = natural p.1.toNat ∧
      ∃ t, m.2 = .text t ∧ StandsFor t (octetsOf p.2)) members l ∧
    ∀ id, sources.find? id = l.reverse.lookup id

/-- The fields say what the record says. Settings and sources may be missing. -/
structure Describes (fields : List (String × RawJson)) (r : CacheRecord) : Prop where
  /-- The version is a number. -/
  version : fields.lookup "version" = some (.number (natural r.version))
  /-- The mark of completeness is a truth value. -/
  complete : fields.lookup "complete" = some (.bool r.complete)
  /-- Without settings, the default ones count. -/
  settings : (fields.lookup "settings").elim (r.settings = defaultSettings)
    (GivesSettings · r.settings)
  /-- The documents are listed. -/
  documents : ∃ v, fields.lookup "universe" = some v ∧ ListsDocuments v r.documents
  /-- The postings are given. -/
  postings : ∃ v, fields.lookup "postings" = some v ∧ GivesPostings v r.postings
  /-- Without sources, there are none. -/
  sources : (fields.lookup "sources").elim (r.sources = ∅) (GivesSources · r.sources)

/-- The value has fields that say what the record says. -/
def IsValueOf (r : CacheRecord) (v : RawJson) : Prop :=
  ∃ fields,
    HasFields ["version", "complete", "settings", "universe", "postings", "sources"] v fields ∧
    Describes fields r

/-- The octets are a document whose value says what the record says. -/
def IsDocumentOf (r : CacheRecord) (content : Octets) : Prop :=
  ∃ v, Document v content ∧ r.IsValueOf v

/-! ### The parts of a document -/

theorem idOfNat?_eq_some_iff {n : Nat} {id : DocId} : idOfNat? n = some id ↔ n = id.toNat := by
  constructor
  · intro h
    rw [idOfNat?] at h
    split at h
    · next hlt =>
      obtain rfl := Option.some.inj h
      exact (UInt64.toNat_ofNat_of_lt' hlt).symm
    · exact absurd h (by simp)
  · rintro rfl
    exact idOfNat?_toNat id

/-- Documents may be listed in any order and more than once. -/
theorem ids?_eq_some_iff {v : RawJson} {ids : SortedSet DocId} :
    ids? v = some ids ↔ ListsDocuments v ids := by
  have hitem (v : RawJson) (id : DocId) :
      v.asNatural?.bind idOfNat? = some id ↔ v = .number (natural id.toNat) := by
    rw [Option.bind_eq_some_iff]
    simp only [asNatural?_eq_some_iff, idOfNat?_eq_some_iff, exists_eq_right]
  have hitems (items : List RawJson) (l : List DocId) :
      items.mapM (fun v ↦ v.asNatural?.bind idOfNat?) = some l ↔
        items = l.map fun id ↦ .number (natural id.toNat) := by
    rw [mapM_eq_some_iff, ← List.forall₂_eq_eq_eq, List.forall₂_map_right_iff]
    simp only [hitem]
  have hset (l : List DocId) : SortedSet.ofList l = ids ↔ ∀ id, id ∈ ids ↔ id ∈ l := by
    constructor
    · rintro rfl id
      exact SortedSet.mem_ofList
    · exact fun h ↦ SortedSet.ext fun id ↦ SortedSet.mem_ofList.trans (h id).symm
  constructor
  · intro h
    obtain ⟨items, hv, h⟩ := Option.bind_eq_some_iff.1 h
    obtain ⟨l, hl, h⟩ := Option.bind_eq_some_iff.1 h
    refine ⟨l, ?_, (hset l).1 (Option.some.inj h)⟩
    rw [asArray?_eq_some_iff.1 hv, (hitems items l).1 hl]
  · rintro ⟨l, rfl, h⟩
    exact Option.bind_eq_some_iff.2 ⟨l, (hitems _ l).2 rfl, congrArg some ((hset l).2 h)⟩

theorem named?_eq_some_iff {n : String} {a : Alphabet} :
    Alphabet.named? n = some a ↔ n = a.name := by
  constructor
  · intro h
    unfold Alphabet.named? at h
    have hname := List.find?_some h
    exact (of_decide_eq_true hname).symm
  · rintro rfl
    cases a <;> rfl

/-- An alphabet is accepted by its own name only, as a text or as a member. -/
theorem alphabet?_eq_some_iff {v : RawJson} {a : Alphabet} :
    alphabet? v = some a ↔ NamesAlphabet v a := by
  have hname (l : Octets) : (textLiteral? l).bind Alphabet.named? = some a ↔
      StandsFor l (octetsOf a.name) := by
    rw [Option.bind_eq_some_iff]
    simp only [textLiteral?_eq_some_iff, named?_eq_some_iff, exists_eq_right]
  constructor
  · intro h
    unfold alphabet? at h
    split at h
    · exact ⟨_, (hname _).1 h, .inl rfl⟩
    · exact ⟨_, (hname _).1 h, .inr rfl⟩
    · exact absurd h (by simp)
  · rintro ⟨l, hl, rfl | rfl⟩
    · exact (hname l).2 hl
    · exact (hname l).2 hl

theorem settings?_eq_some_iff {v : RawJson} {s : Settings} :
    settings? v = some s ↔ GivesSettings v s := by
  rw [settings?, GivesSettings]
  simp only [Option.bind_eq_bind, Option.bind_eq_some_iff, fields?_eq_some_iff,
    alphabet?_eq_some_iff, asBool?_eq_some_iff, Option.pure_def, Option.some.injEq]
  constructor
  · rintro ⟨fields, hfields, w, hw, a, ha, _, hlookup, b, rfl, rfl⟩
    exact ⟨fields, hfields, ⟨w, hw, ha⟩, hlookup⟩
  · rintro ⟨fields, hfields, ⟨w, hw, ha⟩, hlookup⟩
    exact ⟨fields, hfields, w, hw, _, ha, _, hlookup, _, rfl, rfl⟩

/-- Of several values for a key the last one counts. -/
theorem ofList_eq_iff {κ α : Type} [LT κ] [DecidableEq κ] [DecidableLT κ] [LE κ]
    [Std.IsLinearOrder κ] [Std.LawfulOrderLT κ] {l : List (κ × α)} {m : SortedMap κ α} :
    SortedMap.ofList l = m ↔ ∀ k, m.find? k = l.reverse.lookup k := by
  constructor
  · rintro rfl k
    exact SortedMap.find?_ofList l k
  · exact fun h ↦ SortedMap.ext fun k ↦ (SortedMap.find?_ofList l k).trans (h k).symm

theorem postings?_eq_some_iff {v : RawJson} {m : SortedMap String (SortedSet DocId)} :
    postings? v = some m ↔ GivesPostings v m := by
  have hmember (m : String × RawJson) (p : String × SortedSet DocId) :
      (ids? m.2).map (fun ids ↦ (m.1, ids)) = some p ↔ m.1 = p.1 ∧ ListsDocuments m.2 p.2 := by
    simp only [Option.map_eq_some_iff, ids?_eq_some_iff]
    constructor
    · rintro ⟨ids, hids, rfl⟩
      exact ⟨rfl, hids⟩
    · rintro ⟨hname, hids⟩
      exact ⟨p.2, hids, Prod.ext hname rfl⟩
  have hmembers (named : List (String × RawJson)) (l : List (String × SortedSet DocId)) :
      named.mapM (fun m ↦ (ids? m.2).map fun ids ↦ (m.1, ids)) = some l ↔
        List.Forall₂ (fun m p ↦ m.1 = p.1 ∧ ListsDocuments m.2 p.2) named l := by
    rw [mapM_eq_some_iff]
    simp only [hmember]
  constructor
  · intro h
    obtain ⟨members, hv, h⟩ := Option.bind_eq_some_iff.1 h
    obtain ⟨named, hnamed, h⟩ := Option.bind_eq_some_iff.1 h
    obtain ⟨l, hl, h⟩ := Option.bind_eq_some_iff.1 h
    exact ⟨members, named, l, asObject?_eq_some_iff.1 hv, namedMembers?_eq_some_iff.1 hnamed,
      (hmembers named l).1 hl, ofList_eq_iff.1 (Option.some.inj h)⟩
  · rintro ⟨members, named, l, rfl, hnamed, hl, h⟩
    exact Option.bind_eq_some_iff.2 ⟨named, namedMembers?_eq_some_iff.2 hnamed,
      Option.bind_eq_some_iff.2 ⟨l, (hmembers named l).2 hl, congrArg some (ofList_eq_iff.2 h)⟩⟩

/-- Addresses are accepted for identifiers that are written without leading zeros. -/
theorem sources?_eq_some_iff {v : RawJson} {m : SortedMap DocId String} :
    sources? v = some m ↔ GivesSources v m := by
  have hmember (m : Octets × RawJson) (p : DocId × String) :
      (do return (← (naturalLiteral? m.1).bind idOfNat?, ← m.2.asText?)) = some p ↔
        m.1 = natural p.1.toNat ∧ ∃ l, m.2 = .text l ∧ StandsFor l (octetsOf p.2) := by
    simp only [Option.bind_eq_bind, Option.bind_eq_some_iff, naturalLiteral?_eq_some_iff,
      idOfNat?_eq_some_iff, asText?_eq_some_iff, exists_eq_right]
    constructor
    · rintro ⟨id, hid, t, ht, h⟩
      obtain rfl := Option.some.inj h
      exact ⟨hid, ht⟩
    · rintro ⟨hid, ht⟩
      exact ⟨p.1, hid, p.2, ht, rfl⟩
  have hmembers (members : List (Octets × RawJson)) (l : List (DocId × String)) :
      members.mapM (fun m ↦ do
        return (← (naturalLiteral? m.1).bind idOfNat?, ← m.2.asText?)) = some l ↔
          List.Forall₂ (fun m p ↦ m.1 = natural p.1.toNat ∧
            ∃ l, m.2 = .text l ∧ StandsFor l (octetsOf p.2)) members l := by
    rw [mapM_eq_some_iff]
    simp only [hmember]
  constructor
  · intro h
    obtain ⟨members, hv, h⟩ := Option.bind_eq_some_iff.1 h
    obtain ⟨l, hl, h⟩ := Option.bind_eq_some_iff.1 h
    exact ⟨members, l, asObject?_eq_some_iff.1 hv, (hmembers members l).1 hl,
      ofList_eq_iff.1 (Option.some.inj h)⟩
  · rintro ⟨members, l, rfl, hl, h⟩
    exact Option.bind_eq_some_iff.2
      ⟨l, (hmembers members l).2 hl, congrArg some (ofList_eq_iff.2 h)⟩

/-! ### Whole documents -/

/-- A field that may be missing. -/
theorem elim_eq_some_iff {α β : Type} {o : Option α} {f : α → Option β} {d b : β} :
    o.elim (some d) f = some b ↔ o.elim (b = d) (fun a ↦ f a = some b) := by
  cases o with
  | none => exact Option.some_inj.trans eq_comm
  | some a => rfl

/-- **Exactly the values of the layout give a record.** -/
theorem ofJson?_eq_some_iff {v : RawJson} {r : CacheRecord} :
    ofJson? v = some r ↔ r.IsValueOf v := by
  rw [ofJson?, IsValueOf]
  simp only [Option.bind_eq_bind, Option.bind_eq_some_iff, fields?_eq_some_iff, elim_eq_some_iff,
    asNatural?_eq_some_iff, asBool?_eq_some_iff, settings?_eq_some_iff, ids?_eq_some_iff,
    postings?_eq_some_iff, sources?_eq_some_iff, Option.pure_def, Option.some.injEq]
  constructor
  · rintro ⟨fields, hfields, _, hversion, _, rfl, _, hcomplete, _, rfl, _, hsettings, _, hdocuments,
      _, hlists, _, hpostings, _, hgives, _, hsources, rfl⟩
    exact ⟨fields, hfields, hversion, hcomplete, hsettings, ⟨_, hdocuments, hlists⟩,
      ⟨_, hpostings, hgives⟩, hsources⟩
  · rintro ⟨fields, hfields, hversion, hcomplete, hsettings, ⟨_, hdocuments, hlists⟩,
      ⟨_, hpostings, hgives⟩, hsources⟩
    exact ⟨fields, hfields, _, hversion, _, rfl, _, hcomplete, _, rfl, _, hsettings, _, hdocuments,
      _, hlists, _, hpostings, _, hgives, _, hsources, rfl⟩

/-- **Exactly the documents of the layout hold a record.** -/
theorem decode?_eq_some_iff {content : Octets} {r : CacheRecord} :
    decode? content = some r ↔ IsDocumentOf r content := by
  rw [decode?, Option.bind_eq_some_iff, IsDocumentOf]
  simp only [read?_eq_some_iff, ofJson?_eq_some_iff]

/-- Blanks, escapes, another order, an identifier given twice and a member that is no field. -/
example : decode? (octetsOf
    ("\x7b \"universe\": [9, 7, 7], \"postings\": \x7b\"\\u043aот\": [9]\x7d,\n" ++
      "\"version\": 2, \"more\": [null], \"complete\": true \x7d")) =
    some ⟨2, true, defaultSettings, .ofList [7, 9], .ofList [("кот", .ofList [9])], ∅⟩ := by
  decide +kernel

/-- What is written for a record is a document of it. -/
theorem isDocumentOf_encode (r : CacheRecord) : IsDocumentOf r r.encode :=
  decode?_eq_some_iff.1 (decode?_encode r)

/-- Octets are a document of at most one record. -/
theorem IsDocumentOf.unique {content : Octets} {r r' : CacheRecord} (h : IsDocumentOf r content)
    (h' : IsDocumentOf r' content) : r = r' := by
  rw [← decode?_eq_some_iff] at h h'
  exact Option.some.inj (h.symm.trans h')

/-- Nothing is no document. -/
theorem IsDocumentOf.ne_nil {content : Octets} {r : CacheRecord} (h : IsDocumentOf r content) :
    content ≠ [] := by
  rintro rfl
  obtain ⟨v, hv, -⟩ := h
  have hread : none = some v := read?_of_document hv
  exact absurd hread (by simp)

end CacheRecord

namespace Volume

end Volume

namespace Workbench

end Workbench

end Concordance
