import Concordance.Index.Listing
import Concordance.Proofs.Json.Meaning
import Concordance.Proofs.Json.RoundTrip
import Concordance.Proofs.Json.Soundness
import Concordance.Proofs.TextLines

/-!
# Listings as JSON

The JSON form of a result list is one line without controls (`isPlain_write`), whatever controls are
in the query and in the addresses: what is left of them are escapes. It is a document of the
grammar, of one value only, and that value says what was listed (`GivesResults`): the text of the
query, the number of the documents, and the documents in their order, each with its address if it
has one.

Nothing is lost on the way. A literal stands for one text only and a number has one literal, so two
result lists with the same JSON form are of the same query, the same documents and the same
addresses (`GivesResults.unique`).
-/

namespace Concordance

namespace Json

/-! ### Plain characters -/

/-- The characters are no controls: none of those below the space, which JSON allows in escaped form
only. -/
def IsPlain (s : List Char) : Prop := ∀ c ∈ s, 0x20 ≤ c.toNat

instance (s : List Char) : Decidable (IsPlain s) :=
  decidable_of_iff ((s.all fun c ↦ 0x20 ≤ c.toNat) = true) (by simp [IsPlain])

variable {s t : List Char}

theorem isPlain_nil : IsPlain [] := List.forall_mem_nil _

theorem IsPlain.append (hs : IsPlain s) (ht : IsPlain t) : IsPlain (s ++ t) :=
  List.forall_mem_append.2 ⟨hs, ht⟩

theorem IsPlain.cons {c : Char} (hc : 0x20 ≤ c.toNat) (hs : IsPlain s) : IsPlain (c :: s) :=
  List.forall_mem_cons.2 ⟨hc, hs⟩

/-- **Plain characters lie on one line.** -/
theorem IsPlain.newline_not_mem (h : IsPlain s) : '\n' ∉ s := fun hmem ↦
  absurd (h '\n' hmem) (by decide)

/-- Whatever a character is, its escape is plain: the controls are the characters that are never
left as they are. -/
theorem isPlain_escapeChar (c : Char) : IsPlain (escapeChar c) := by
  have hcontrol : ∀ n < 0x20,
      IsPlain ['\\', 'u', '0', '0', Nat.digitChar (n / 16), Nat.digitChar (n % 16)] := by
    decide
  rw [escapeChar]
  split
  · next h =>
    rw [Bool.or_eq_true, decide_eq_true_eq, decide_eq_true_eq] at h
    rcases h with rfl | rfl <;> decide
  split
  · decide
  split
  · decide
  split
  · decide
  split
  · decide
  split
  · decide
  split
  · next h => exact hcontrol c.toNat h
  · next h => exact .cons (Nat.not_lt.1 h) isPlain_nil

/-- **An escaped text is plain**, whatever controls are in the text. -/
theorem isPlain_escape (s : List Char) : IsPlain (escape s) := by
  induction s with
  | nil => exact isPlain_nil
  | cons c s ih =>
    rw [escape_cons]
    exact (isPlain_escapeChar c).append ih

theorem isPlain_toDigits (n : Nat) : IsPlain (Nat.toDigits 10 n) := by
  intro c hc
  have hdigit := Nat.isDigit_of_mem_toDigits (by decide) (by decide) hc
  simp only [Char.isDigit, Bool.and_eq_true, decide_eq_true_eq, ge_iff_le, UInt32.le_iff_toNat_le]
    at hdigit
  exact Nat.le_trans (by decide) hdigit.1

/-- A text is plain between its quotation marks, whatever is in it. -/
theorem isPlain_writeText (t : String) : IsPlain (writeText t) :=
  .cons (by decide) ((isPlain_escape t.toList).append (by decide))

/-- Commas between plain items leave them plain. -/
theorem isPlain_writeItems {items : List (Json Nat String)}
    (h : ∀ v ∈ items, IsPlain (write v)) : IsPlain (writeItems items) := by
  induction items with
  | nil => exact isPlain_nil
  | cons v items ih =>
    obtain ⟨hv, hitems⟩ := List.forall_mem_cons.1 h
    cases items with
    | nil => exact hv
    | cons w items => exact hv.append (.cons (by decide) (ih hitems))

theorem isPlain_writeMembers {members : List (String × Json Nat String)}
    (h : ∀ m ∈ members, IsPlain (write m.2)) : IsPlain (writeMembers members) := by
  have hmember {m : String × Json Nat String} (hm : IsPlain (write m.2)) :
      IsPlain (writeMember m) := by
    rw [writeMember]
    exact (isPlain_writeText m.1).append (.cons (by decide) hm)
  induction members with
  | nil => exact isPlain_nil
  | cons m members ih =>
    obtain ⟨hm, hmembers⟩ := List.forall_mem_cons.1 h
    cases members with
    | nil => exact hmember hm
    | cons n members => exact (hmember hm).append (.cons (by decide) (ih hmembers))

mutual

/-- **What is written for a value is plain.** -/
theorem isPlain_write : (v : Json Nat String) → IsPlain (write v)
  | .null => by decide
  | .bool true => by decide
  | .bool false => by decide
  | .number n => isPlain_toDigits n
  | .text t => isPlain_writeText t
  | .array items =>
    .cons (by decide) ((isPlain_writeItems (isPlain_items items)).append (by decide))
  | .object members =>
    .cons (by decide) ((isPlain_writeMembers (isPlain_members members)).append (by decide))
  termination_by structural v => v

theorem isPlain_items : (items : List (Json Nat String)) → ∀ v ∈ items, IsPlain (write v)
  | [] => fun _ h ↦ absurd h List.not_mem_nil
  | v :: items => List.forall_mem_cons.2 ⟨isPlain_write v, isPlain_items items⟩
  termination_by structural items => items

theorem isPlain_members :
    (members : List (String × Json Nat String)) → ∀ m ∈ members, IsPlain (write m.2)
  | [] => fun _ h ↦ absurd h List.not_mem_nil
  | m :: members => List.forall_mem_cons.2 ⟨isPlain_member m, isPlain_members members⟩
  termination_by structural members => members

theorem isPlain_member : (m : String × Json Nat String) → IsPlain (write m.2)
  | (_, v) => isPlain_write v
  termination_by structural m => m

end

/-! ### Literals of texts and numbers -/

/-- What is written for a text stands for it. -/
theorem standsFor_escape (t : String) : StandsFor (utf8 (escape t.toList)) (octetsOf t) :=
  textLiteral?_eq_some_iff.1 (textLiteral?_escape t)

/-- Numbers that are written alike are equal, since they are read back. -/
theorem natural_injective {m n : Nat} (h : natural m = natural n) : m = n := by
  have hread := naturalLiteral?_natural m
  rw [h, naturalLiteral?_natural] at hread
  exact (Option.some.inj hread).symm

/-- The value is a text, and this is the text. -/
def IsTextOf (v : RawJson) (t : String) : Prop := ∃ l, v = .text l ∧ StandsFor l (octetsOf t)

theorem isTextOf_raw_text (t : String) : IsTextOf (raw (.text t)) t :=
  ⟨_, by rw [raw], standsFor_escape t⟩

/-- A literal stands for one text only. -/
theorem IsTextOf.unique {v : RawJson} {t u : String} (ht : IsTextOf v t) (hu : IsTextOf v u) :
    t = u := by
  have hread := asText?_eq_some_iff.2 ht
  rw [asText?_eq_some_iff.2 hu] at hread
  exact (Option.some.inj hread).symm

/-- The names of members stand for what they were written for. -/
theorem areNamed_rawMembers (members : List (String × Json Nat String)) :
    AreNamed (rawMembers members) (members.map fun m ↦ (m.1, raw m.2)) := by
  rw [rawMembers_eq, AreNamed, List.forall₂_map_left_iff, List.forall₂_map_right_iff,
    List.forall₂_same]
  exact fun m _ ↦ ⟨standsFor_escape m.1, rfl⟩

/-- Members have one name each, whatever the spelling of it. -/
theorem AreNamed.unique {members : List (Octets × RawJson)} {f g : List (String × RawJson)}
    (hf : AreNamed members f) (hg : AreNamed members g) : f = g := by
  have hread := namedMembers?_eq_some_iff.2 hf
  rw [namedMembers?_eq_some_iff.2 hg] at hread
  exact (Option.some.inj hread).symm

end Json

namespace Index

open Json

variable {x y : Index} {id id' : DocId} {ids ids' : List DocId} {query query' : String}
  {v : RawJson}

/-! ### Results -/

/-- The value is an object with the number of the document and its address, which is nothing exactly
if the address is not known. -/
def GivesResult (x : Index) (id : DocId) (v : RawJson) : Prop :=
  ∃ members url, v = .object members ∧
    AreNamed members [("id", .number (natural id.toNat)), ("url", url)] ∧
    (url = .null ↔ x.source? id = none) ∧ ∀ t, IsTextOf url t ↔ x.source? id = some t

/-- The value is an object with the text of the query, the number of the documents, and the results,
one for each document and in the same order. -/
def GivesResults (x : Index) (query : String) (ids : List DocId) (v : RawJson) : Prop :=
  ∃ members text results, v = .object members ∧
    AreNamed members [("query", text), ("result_count", .number (natural ids.length)),
      ("results", .array results)] ∧
    IsTextOf text query ∧ List.Forall₂ x.GivesResult ids results

/-- What is written for a document gives its identifier and its address. -/
theorem givesResult_resultJson (x : Index) (id : DocId) :
    x.GivesResult id (raw (x.resultJson id)) := by
  refine ⟨_, _, by rw [resultJson, raw], areNamed_rawMembers _, ?_, fun t ↦ ?_⟩
  · cases x.source? id <;> simp [raw]
  · cases x.source? id with
    | none => simp [raw, IsTextOf]
    | some url =>
      rw [Option.some.injEq]
      exact ⟨(isTextOf_raw_text url).unique, fun h ↦ h ▸ isTextOf_raw_text url⟩

/-- What is written for a result list gives all of it, item by item. -/
theorem givesResults_resultsJson (x : Index) (query : String) (ids : List DocId) :
    x.GivesResults query ids (raw (x.resultsJson query ids)) := by
  refine ⟨_, _, _, by rw [resultsJson, raw], areNamed_rawMembers _, isTextOf_raw_text query, ?_⟩
  rw [rawItems_eq, List.map_map, List.forall₂_map_right_iff, List.forall₂_same]
  exact fun id _ ↦ x.givesResult_resultJson id

/-- A value gives one document only, with one address only. -/
theorem GivesResult.unique (h : x.GivesResult id v) (h' : y.GivesResult id' v) :
    id = id' ∧ x.source? id = y.source? id' := by
  obtain ⟨members, url, rfl, hnamed, -, hurl⟩ := h
  obtain ⟨members', url', hmembers, hnamed', -, hurl'⟩ := h'
  obtain rfl := Json.object.inj hmembers
  obtain ⟨hid, rfl⟩ : natural id.toNat = natural id'.toNat ∧ url = url' := by
    simpa using hnamed.unique hnamed'
  refine ⟨UInt64.toNat_inj.1 (natural_injective hid), Option.ext fun t ↦ ?_⟩
  exact (hurl t).symm.trans (hurl' t)

/-- **A value gives one result list only.** -/
theorem GivesResults.unique (h : x.GivesResults query ids v) (h' : y.GivesResults query' ids' v) :
    query = query' ∧ ids = ids' ∧ ∀ id ∈ ids, x.source? id = y.source? id := by
  obtain ⟨members, text, results, rfl, hnamed, htext, hresults⟩ := h
  obtain ⟨members', text', results', hmembers, hnamed', htext', hresults'⟩ := h'
  obtain rfl := Json.object.inj hmembers
  obtain ⟨rfl, -, rfl⟩ :
      text = text' ∧ natural ids.length = natural ids'.length ∧ results = results' := by
    simpa using hnamed.unique hnamed'
  refine ⟨htext.unique htext', ?_⟩
  clear hnamed hnamed'
  induction hresults generalizing ids' with
  | nil =>
    rw [List.forall₂_nil_right_iff] at hresults'
    exact ⟨hresults'.symm, by simp⟩
  | cons hv hrest ih =>
    obtain ⟨id', ids', hv', hrest', rfl⟩ := List.forall₂_cons_right_iff.1 hresults'
    obtain ⟨rfl, hsource⟩ := hv.unique hv'
    obtain ⟨rfl, hsources⟩ := ih hrest'
    exact ⟨rfl, List.forall_mem_cons.2 ⟨hsource, hsources⟩⟩

/-- **The JSON form of a result list loses nothing.** It is a single line without controls, and a
document of one value only, which gives the query, the number of the documents, and the documents in
their order with their addresses. So if another result list has the same form, then it is of the
same query and the same documents, and these have the same addresses. -/
theorem json_listing_is_lossless (x : Index) (query : String) (ids : List DocId) :
    IsPlain (x.listAsJson query ids).toList ∧
      textLines (x.listAsJson query ids) = [x.listAsJson query ids] ∧
      (∃ v, (∀ u, Document u (octetsOf (x.listAsJson query ids)) ↔ u = v) ∧
        x.GivesResults query ids v) ∧
      ∀ (y : Index) (query' : String) (ids' : List DocId),
        y.listAsJson query' ids' = x.listAsJson query ids →
          query' = query ∧ ids' = ids ∧ ∀ id ∈ ids, y.source? id = x.source? id := by
  have hplain : IsPlain (x.listAsJson query ids).toList := by
    rw [listAsJson, toText, String.toList_ofList]
    exact isPlain_write _
  have hne : x.listAsJson query ids ≠ "" := by
    intro h
    have hlist := congrArg String.toList h
    rw [listAsJson, toText, String.toList_ofList, resultsJson, write] at hlist
    exact absurd hlist (by simp)
  refine ⟨hplain, textLines_of_ne_empty hplain.newline_not_mem hne,
    ⟨_, fun u ↦ ?_, x.givesResults_resultsJson query ids⟩, fun y query' ids' h ↦ ?_⟩
  · rw [← read?_eq_some_iff, listAsJson, read?_toText, Option.some.injEq, eq_comm]
  · have hraw : raw (y.resultsJson query' ids') = raw (x.resultsJson query ids) := by
      have hread := read?_toText (y.resultsJson query' ids')
      rw [← listAsJson, h, listAsJson, read?_toText] at hread
      exact (Option.some.inj hread).symm
    have hresults := y.givesResults_resultsJson query' ids'
    rw [hraw] at hresults
    obtain ⟨rfl, rfl, hsources⟩ := hresults.unique (x.givesResults_resultsJson query ids)
    exact ⟨rfl, rfl, hsources⟩

/-- Two addresses, one of them with a quotation mark, a backslash and controls. -/
def quotedSources : Index :=
  ((∅ : Index).setSource 7 "a\"b\\c\x01\n").setSource 18446744073709551615 "é"

/-- The address of a document that is not listed does not show, and those of the others agree. -/
theorem json_listing_is_lossless_of_quotedSources :
    (quotedSources.setSource 3 "d").listAsJson "кот\t\"" [18446744073709551615, 0, 7] =
        quotedSources.listAsJson "кот\t\"" [18446744073709551615, 0, 7] ∧
      '\n' ∉ (quotedSources.listAsJson "кот\t\"" [18446744073709551615, 0, 7]).toList ∧
      (quotedSources.setSource 3 "d").source? 7 = quotedSources.source? 7 := by
  have hsame : (quotedSources.setSource 3 "d").listAsJson "кот\t\"" [18446744073709551615, 0, 7] =
      quotedSources.listAsJson "кот\t\"" [18446744073709551615, 0, 7] := by
    decide +kernel
  obtain ⟨hplain, -, -, hunique⟩ :=
    json_listing_is_lossless quotedSources "кот\t\"" [18446744073709551615, 0, 7]
  obtain ⟨-, -, hsources⟩ := hunique _ _ _ hsame
  exact ⟨hsame, hplain.newline_not_mem, hsources 7 (by decide)⟩

end Index

end Concordance
