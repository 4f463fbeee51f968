import Concordance.Cache.Storage
import Concordance.Proofs.Decimal
import Concordance.Proofs.Index
import Concordance.Proofs.Json.RoundTrip

/-!
# Cache records are read back

The document of a record is read as that record (`decode?_encode`), part by part: identifiers are
numbers of 64 bits and are written as such, ordered containers are listed in their order, and texts
and numbers are literals that are read back. So the document of an index holds that index under the
settings under which it was made, and nothing under any others (`indexOf?_encode`).
-/

namespace Concordance

open Json

private theorem mapM_map_eq_some {α β : Type} {f : β → Option α} {g : α → β} {l : List α}
    (h : ∀ a ∈ l, f (g a) = some a) : (l.map g).mapM f = some l := by
  induction l with
  | nil => rfl
  | cons a l ih =>
    rw [List.forall_mem_cons] at h
    rw [List.map_cons, List.mapM_cons, h.1, ih h.2]
    rfl

namespace Json

theorem asNatural?_raw (n : Nat) : asNatural? (raw (.number n)) = some n :=
  naturalLiteral?_natural n

theorem asText?_raw (t : String) : asText? (raw (.text t)) = some t :=
  textLiteral?_escape t

theorem asArray?_raw (items : List (Json Nat String)) :
    asArray? (raw (.array items)) = some (items.map raw) := by
  rw [raw, rawItems_eq]
  rfl

theorem asObject?_raw (members : List (String × Json Nat String)) :
    asObject? (raw (.object members)) =
      some (members.map fun m ↦ (utf8 (escape m.1.toList), raw m.2)) := by
  rw [raw, rawMembers_eq]
  rfl

/-- The names of members are read back, in their order. -/
theorem namedMembers?_raw (members : List (String × Json Nat String)) :
    namedMembers? (members.map fun m ↦ (utf8 (escape m.1.toList), raw m.2)) =
      some (members.map fun m ↦ (m.1, raw m.2)) := by
  induction members with
  | nil => rfl
  | cons m members ih =>
    rw [namedMembers?] at ih ⊢
    rw [List.map_cons, List.mapM_cons, ih, textLiteral?_escape]
    rfl

/-- The fields of an object whose members are fields, none of them twice. -/
theorem fields?_raw {names : List String} {members : List (String × Json Nat String)}
    (h : names.all fun n ↦ decide ((members.filter fun m ↦ m.1 = n).length ≤ 1)) :
    fields? names (raw (.object members)) = some (members.map fun m ↦ (m.1, raw m.2)) := by
  have hfilter (n : String) : ((members.map fun m ↦ (m.1, raw m.2)).filter fun m ↦ m.1 = n).length =
      (members.filter fun m ↦ m.1 = n).length := by
    rw [List.filter_map, List.length_map]
    rfl
  rw [raw, rawMembers_eq, fields?, namedMembers?_raw]
  simp only [Option.bind_eq_bind, Option.bind_some, hfilter]
  exact if_pos h

end Json

namespace CacheRecord

/-- The number of an identifier is always within its range. -/
theorem idOfNat?_toNat (id : DocId) : idOfNat? id.toNat = some id := by
  rw [idOfNat?, if_pos id.toNat_lt_size, UInt64.ofNat_toNat]

/-- An ascending list of identifiers is that of one set only, so that the set is read back. -/
theorem ids?_raw (ids : SortedSet DocId) : ids? (raw (idsJson ids)) = some ids := by
  have hitems : ((ids.toList.map fun id ↦ Json.number id.toNat).map raw).mapM
      (fun v ↦ v.asNatural?.bind idOfNat?) = some ids.toList := by
    rw [List.map_map]
    refine mapM_map_eq_some fun id _ ↦ ?_
    rw [Function.comp_apply, asNatural?_raw, Option.bind_some, idOfNat?_toNat]
  rw [ids?, idsJson, asArray?_raw]
  simp only [Option.bind_eq_bind, Option.bind_some, hitems]
  exact congrArg some (SortedSet.ofList_toList ids)

theorem alphabet?_raw (a : Alphabet) : alphabet? (raw (.text a.name)) = some a := by
  rw [raw, alphabet?, textLiteral?_escape]
  cases a <;> rfl

theorem settings?_raw (s : Settings) : settings? (raw (settingsJson s)) = some s := by
  rw [settings?, settingsJson, fields?_raw (by rfl)]
  show (do
    return ⟨← alphabet? (raw (.text s.alphabet.name)), ← asBool? (raw (.bool s.stripMarkup))⟩ :
    Option Settings) = some s
  rw [alphabet?_raw]
  rfl

/-- Postings are read back: each term names its set, and the terms are in their order. -/
theorem postings?_raw (m : SortedMap String (SortedSet DocId)) :
    postings? (raw (.object (m.pairs.map fun p ↦ (p.1, idsJson p.2)))) = some m := by
  have hnamed : namedMembers? ((m.pairs.map fun p ↦ (p.1, idsJson p.2)).map fun q ↦
      (utf8 (escape q.1.toList), raw q.2)) =
        some (m.pairs.map fun p ↦ (p.1, raw (idsJson p.2))) := by
    rw [namedMembers?_raw, List.map_map]
    rfl
  have hmembers : (m.pairs.map fun p ↦ (p.1, raw (idsJson p.2))).mapM
      (fun q ↦ (ids? q.2).map fun ids ↦ (q.1, ids)) = some m.pairs := by
    refine mapM_map_eq_some fun p _ ↦ ?_
    rw [ids?_raw]
    rfl
  rw [postings?, asObject?_raw]
  simp only [Option.bind_eq_bind, Option.bind_some, hnamed, hmembers]
  exact congrArg some (SortedMap.ofList_pairs m)

/-- Digits need no escapes. -/
theorem escape_of_isDigit {s : List Char} (h : ∀ c ∈ s, c.isDigit = true) : escape s = s := by
  have hchar {c : Char} (hc : c.isDigit = true) : escapeChar c = [c] := by
    -- None of the characters that are escaped is a digit.
    have hne {d : Char} (hd : d.isDigit = false) : c ≠ d := by
      rintro rfl
      rw [hc] at hd
      exact absurd hd (by simp)
    have hge : ¬ c.toNat < 0x20 := by
      have hdigit := UInt32.le_iff_toNat_le.1 (of_decide_eq_true (Bool.and_eq_true_iff.1 hc).1)
      exact Nat.not_lt.2 (Nat.le_trans (by decide) hdigit)
    have hquote := hne (d := '"') rfl
    have hslash := hne (d := '\\') rfl
    rw [escapeChar]
    rw [if_neg (by simp [hquote, hslash]), if_neg (hne rfl), if_neg (hne rfl), if_neg (hne rfl),
      if_neg (hne rfl), if_neg (hne rfl), if_neg hge]
  induction s with
  | nil => rfl
  | cons c s ih =>
    rw [List.forall_mem_cons] at h
    rw [escape_cons, hchar h.1, ih h.2]
    rfl

/-- Addresses are read back, though the identifiers that name them are written as texts. -/
theorem sources?_raw (m : SortedMap DocId String) :
    sources? (raw (.object (m.pairs.map fun p ↦ (p.1.text, .text p.2)))) = some m := by
  have hname (id : DocId) : utf8 (escape id.text.toList) = natural id.toNat := by
    rw [DocId.toList_text, escape_of_isDigit fun c hc ↦ DocId.isDigit_of_mem_digits hc]
    rfl
  rw [sources?, asObject?_raw]
  simp only [Option.bind_eq_bind, Option.bind_some, List.map_map]
  rw [mapM_map_eq_some fun p _ ↦ ?_]
  · exact congrArg some (SortedMap.ofList_pairs m)
  · simp only [Function.comp_apply, hname, naturalLiteral?_natural, idOfNat?_toNat, asText?_raw,
      Option.bind_some]
    rfl

/-- **A record is read back from its document.** -/
theorem decode?_encode (r : CacheRecord) : decode? r.encode = some r := by
  rw [decode?, encode, read?_toText, Option.bind_some, ofJson?, toJson, fields?_raw (by rfl)]
  simp only [Option.bind_eq_bind, Option.bind_some, List.map_cons, List.map_nil]
  show (do
    return {
      version := ← asNatural? (raw (.number r.version))
      complete := ← asBool? (raw (.bool r.complete))
      settings := ← settings? (raw (settingsJson r.settings))
      documents := ← ids? (raw (idsJson r.documents))
      postings := ← postings? (raw (.object (r.postings.pairs.map fun p ↦ (p.1, idsJson p.2))))
      sources := ← sources? (raw (.object (r.sources.pairs.map fun p ↦ (p.1.text, .text p.2)))) } :
    Option CacheRecord) = some r
  rw [asNatural?_raw, settings?_raw, ids?_raw, postings?_raw, sources?_raw]
  rfl

/-- The index in the document with the given octets, if it can be used under the given settings. -/
def indexOf? (content : Octets) (s : Settings) : Option Index :=
  (decode? content).bind (·.toIndex? s)

/-- A record of an index can be used under the settings that it was made under, and no others. -/
theorem toIndex?_ofIndex {x : Index} (h : x.Covered) (s s' : Settings) :
    (ofIndex x s).toIndex? s' = if s = s' then some x else none := by
  have hparts : Index.ofParts? x.postings x.documents x.sources = some x :=
    if_pos (Index.isCovered_eq_true_iff.2 h)
  rw [toIndex?, ofIndex]
  by_cases hs : s = s'
  · rw [if_pos ⟨rfl, hs, rfl⟩, if_pos hs, hparts]
  · rw [if_neg fun h ↦ hs h.2.1, if_neg hs]

/-- **The document of an index holds that index**, under its own settings and no others. -/
theorem indexOf?_encode {x : Index} (h : x.Covered) (s s' : Settings) :
    indexOf? (ofIndex x s).encode s' = if s = s' then some x else none := by
  rw [indexOf?, decode?_encode, Option.bind_some, toIndex?_ofIndex h]

end CacheRecord

namespace Volume

variable {v : Volume} {p : Path} {s : Settings} {x : Index}

/-- **What is loaded from a path depends only on the content that is there.** -/
theorem loadCache?_eq_some_iff :
    v.loadCache? p s = some x ↔
      ∃ content, v.contentAt p = .ok content ∧ CacheRecord.indexOf? content s = some x := by
  rw [loadCache?, cacheLength?, contentAt]
  cases v.nodeAt p with
  | error e => simp
  | ok n =>
    cases n with
    | directory => simp
    | file content =>
      cases content with
      | nil =>
        -- An empty file does not count as a cache, and its content is no document either.
        have hempty : CacheRecord.indexOf? [] s = none := rfl
        simp [hempty]
      | cons o rest => simp [CacheRecord.indexOf?]

end Volume

end Concordance
