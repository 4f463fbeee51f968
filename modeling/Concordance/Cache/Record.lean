import Concordance.Index.Basic
import Concordance.Json.Decoding
import Concordance.Json.Writing
import Concordance.Settings

/-!
# Cache records

An index is kept as one JSON document, together with the version of the layout, the settings under
which it was made, and a mark that it is complete. Every part is ordered, so equal indexes under
equal settings give the same octets.

A document is accepted if it has this layout; the settings and the sources may be missing, and then
count as the Cyrillic alphabet without markup and as no sources. Whether an accepted document can be
used is decided afterwards: it must be of this version, complete, made under the settings that are
asked for, and covered.
-/

namespace Concordance

/-- What a cache document says. -/
structure CacheRecord where
  /-- The version of the layout. -/
  version : Nat
  /-- Was the index complete? -/
  complete : Bool
  /-- The settings under which the index was made. -/
  settings : Settings
  /-- The documents of the index. -/
  documents : SortedSet DocId
  /-- The postings of the index. -/
  postings : SortedMap String (SortedSet DocId)
  /-- The sources of the index. -/
  sources : SortedMap DocId String
  deriving DecidableEq

namespace CacheRecord

/-- The version of the layout. -/
def currentVersion : Nat := 2

/-- The settings of a document that does not give any. -/
def defaultSettings : Settings := ⟨.cyrillic, false⟩

/-! ### Writing -/

/-- A set of documents as a JSON value. -/
def idsJson (ids : SortedSet DocId) : Json Nat String :=
  .array (ids.toList.map fun id ↦ .number id.toNat)

/-- Settings as a JSON value. -/
def settingsJson (s : Settings) : Json Nat String :=
  .object [("alphabet", .text s.alphabet.name), ("strip_markup", .bool s.stripMarkup)]

/-- The document of a record. -/
def toJson (r : CacheRecord) : Json Nat String :=
  .object
    [("version", .number r.version), ("complete", .bool r.complete),
      ("settings", settingsJson r.settings), ("universe", idsJson r.documents),
      ("postings", .object (r.postings.pairs.map fun p ↦ (p.1, idsJson p.2))),
      ("sources", .object (r.sources.pairs.map fun p ↦ (p.1.text, .text p.2)))]

/-- The octets of the document of a record. -/
def encode (r : CacheRecord) : Octets :=
  octetsOf r.toJson.toText

/-! ### Reading -/

/-- The identifier with the given number. -/
def idOfNat? (n : Nat) : Option DocId :=
  if n < UInt64.size then some (UInt64.ofNat n) else none

/-- The set of documents that a JSON value gives. -/
def ids? (v : RawJson) : Option (SortedSet DocId) := do
  return .ofList (← (← v.asArray?).mapM fun v ↦ v.asNatural?.bind idOfNat?)

/-- The alphabet that a JSON value gives: its name, or an object with nothing at that name. -/
def alphabet? : RawJson → Option Alphabet
  | .text name => (Json.textLiteral? name).bind Alphabet.named?
  | .object [(name, .null)] => (Json.textLiteral? name).bind Alphabet.named?
  | _ => none

/-- The settings that a JSON value gives. -/
def settings? (v : RawJson) : Option Settings := do
  let fields ← v.fields? ["alphabet", "strip_markup"]
  return ⟨← alphabet? (← fields.lookup "alphabet"),
    ← Json.asBool? (← fields.lookup "strip_markup")⟩

/-- The postings that a JSON value gives. -/
def postings? (v : RawJson) : Option (SortedMap String (SortedSet DocId)) := do
  return .ofList (← (← Json.namedMembers? (← v.asObject?)).mapM fun m ↦
    (ids? m.2).map fun ids ↦ (m.1, ids))

/-- The sources that a JSON value gives. Their names are number literals. -/
def sources? (v : RawJson) : Option (SortedMap DocId String) := do
  return .ofList (← (← v.asObject?).mapM fun m ↦ do
    return (← (Json.naturalLiteral? m.1).bind idOfNat?, ← m.2.asText?))

/-- The record of a document. -/
def ofJson? (v : RawJson) : Option CacheRecord := do
  let fields ←
    v.fields? ["version", "complete", "settings", "universe", "postings", "sources"]
  return {
    version := ← Json.asNatural? (← fields.lookup "version")
    complete := ← Json.asBool? (← fields.lookup "complete")
    settings := ← (fields.lookup "settings").elim (some defaultSettings) settings?
    documents := ← ids? (← fields.lookup "universe")
    postings := ← postings? (← fields.lookup "postings")
    sources := ← (fields.lookup "sources").elim (some ∅) sources? }

/-- The record whose document has the given octets. -/
def decode? (content : Octets) : Option CacheRecord :=
  (Json.read? content).bind ofJson?

/-! ### Indexes -/

/-- The record of an index made under the given settings. -/
def ofIndex (x : Index) (s : Settings) : CacheRecord :=
  ⟨currentVersion, true, s, x.documents, x.postings, x.sources⟩

/-- The index of a record, if the record can be used under the given settings. -/
def toIndex? (r : CacheRecord) (s : Settings) : Option Index :=
  if r.version = currentVersion ∧ r.settings = s ∧ r.complete = true then
    Index.ofParts? r.postings r.documents r.sources
  else none

end CacheRecord

end Concordance
