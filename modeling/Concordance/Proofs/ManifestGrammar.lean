import Mathlib.Data.List.ReduceOption
import Concordance.Proofs.Blank
import Concordance.Proofs.Manifest

/-!
# The grammar of a manifest

A line of a manifest that is not blank either offers a document (`Offers`) or is at fault. Between
the blanks around it, it has a spelling of the identifier, a blank, and the address; whatever comes
before the first blank must be such a spelling. That is all that reading a single line comes to
(`readLine_eq_ok_iff`), and an address that is offered always has a first and a last character, and
these are no blanks (`Offers.trim_toList`).

What a line gives also depends on the lines before it, as the first of several lines for a document
counts. `Gives` says what it is when certain documents have entries already: nothing, an entry or a
failure. `LineByLine` puts this down for each line by its place. What is carried from line to line
is the list of the documents that have entries, and a line adds at most one to it
(`LineByLine.cons`).
-/

namespace Concordance

namespace Corpus

variable {root : Path} {n : Nat} {seen : List DocId} {line : List Char} {ls : List (List Char)}
  {id id' : DocId} {url url' : String} {f : Failure} {e : Entry}

/-! ### Single lines -/

/-- The line offers a document with an address: between the blanks around the line there are a
spelling of the identifier, a blank, and the address, with blanks before it or without. -/
def Offers (line : List Char) (id : DocId) (url : String) : Prop :=
  ∃ before c after, trim line = before ++ c :: after ∧ (∀ d ∈ before, isBlank d = false) ∧
    isBlank c = true ∧ id.SpelledBy before ∧ url = String.ofList (trim after)

/-- **Just the lines that offer a document are read.** -/
theorem readLine_eq_ok_iff : readLine (trim line) = .ok (id, url) ↔ Offers line id url := by
  constructor
  · intro h
    rw [readLine] at h
    split at h
    · exact absurd h (by simp)
    · next before after hsplit =>
      split at h
      · exact absurd h (by simp)
      · next hparse =>
        obtain ⟨rfl, rfl⟩ := Prod.mk.inj (Except.ok.inj h)
        obtain ⟨c, hline, hbefore, hc⟩ := splitAtBlank?_eq_some_iff.1 hsplit
        exact ⟨before, c, after, hline, hbefore, hc, DocId.parse_eq_ok_iff.1 hparse, rfl⟩
  · rintro ⟨before, c, after, hline, hbefore, hc, hid, rfl⟩
    rw [readLine, hline, splitAtBlank?_append hbefore hc]
    simp only [DocId.parse_eq_ok_iff.2 hid]

/-- A line offers one document at most, since the first blank ends the identifier. -/
theorem Offers.unique (h : Offers line id url) (h' : Offers line id' url') :
    id = id' ∧ url = url' := by
  have hread := readLine_eq_ok_iff.2 h
  rw [readLine_eq_ok_iff.2 h'] at hread
  exact Prod.mk.inj (Except.ok.inj hread).symm

/-- A single line is at fault for want of a blank, or for what stands before the first one. -/
theorem fault_of_readLine {fault : LineFault} (h : readLine (trim line) = .error fault) :
    (fault = .noBlank ↔ ∀ c ∈ trim line, isBlank c = false) ∧ fault ≠ .duplicate := by
  rw [← splitAtBlank?_eq_none_iff]
  rw [readLine] at h
  split at h
  · next hnone =>
    obtain rfl := Except.error.inj h
    exact ⟨iff_of_true rfl hnone, by simp⟩
  · next before after hsplit =>
    split at h
    · obtain rfl := Except.error.inj h
      exact ⟨by simp [hsplit], by simp⟩
    · exact absurd h (by simp)

/-- A blank line offers nothing. -/
theorem Offers.not_forall_isBlank (h : Offers line id url) : ¬ ∀ c ∈ line, isBlank c = true := by
  obtain ⟨before, c, after, hline, -⟩ := h
  rw [← trim_eq_nil_iff, hline]
  simp

/-- And neither does a line without a blank in it. -/
theorem Offers.exists_isBlank (h : Offers line id url) :
    ¬ ∀ c ∈ trim line, isBlank c = false := by
  obtain ⟨before, c, after, hline, -, hc, -⟩ := h
  intro hall
  rw [hline] at hall
  rw [hall c (by simp)] at hc
  exact absurd hc Bool.false_ne_true

/-- **An address that is offered is not empty**, because the line does not end with a blank. -/
theorem Offers.ne_empty (h : Offers line id url) : url ≠ "" := by
  obtain ⟨before, c, after, hline, -, hc, -, rfl⟩ := h
  intro hempty
  have hafter : ∀ d ∈ after, isBlank d = true :=
    trim_eq_nil_iff.1 (by simpa using congrArg String.toList hempty)
  have hall : ∀ d ∈ c :: after, isBlank d = true := List.forall_mem_cons.2 ⟨hc, hafter⟩
  obtain ⟨d, hd⟩ := Option.isSome_iff_exists.1 (List.getLast?_isSome.2 (List.cons_ne_nil c after))
  have hlast : d ∈ (trim line).getLast? := by
    rw [hline, List.getLast?_append, hd]
    rfl
  exact absurd (hall d (List.mem_of_getLast? hd)) (by simp [not_isBlank_of_getLast?_trim hlast])

/-- An address that is offered has no blanks at its ends. -/
theorem Offers.trim_toList (h : Offers line id url) : trim url.toList = url.toList := by
  obtain ⟨-, -, after, -, -, -, -, rfl⟩ := h
  rw [String.toList_ofList, trim_trim]

/-! ### What a line gives -/

/-- The failure of the line with the number `n`. -/
structure IsFailureOf (root : Path) (n : Nat) (line : List Char) (f : Failure) : Prop where
  /-- It names the manifest. -/
  path_eq : f.path = manifestPath root
  /-- It names the number of the line, and what is wrong: there is no blank in the line, or else
  there is no identifier before the first one, or else an earlier line counts. -/
  exists_fault : ∃ fault, f.cause = .line n fault ∧
    f.cause.message = "line " ++ toString n ++ ": " ++ fault.message ∧
    (fault = .noBlank ↔ ∀ c ∈ trim line, isBlank c = false) ∧
    (fault = .duplicate ↔ ∃ id url, Offers line id url)
  /-- It names a document only if the line offers that. -/
  id?_eq_some_iff : ∀ id, f.id? = some id ↔ ∃ url, Offers line id url

/-- What the line with the number `n` gives when certain documents have entries already: nothing, an
entry or a failure. -/
structure Gives (root : Path) (n : Nat) (taken : DocId → Prop) (line : List Char)
    (r : Option (Except Failure Entry)) : Prop where
  /-- Just the blank lines give nothing. -/
  nothing_iff : r = none ↔ ∀ c ∈ line, isBlank c = true
  /-- Just the lines give an entry that offer a document which has none yet. -/
  entry_iff : ∀ e, r = some (.ok e) ↔
    Offers line e.id e.url ∧ e.path = documentPath root e.id ∧ ¬ taken e.id
  /-- A failure is that of the line. -/
  failure : ∀ f, r = some (.error f) → IsFailureOf root n line f

namespace Gives

variable {taken taken' : DocId → Prop} {r : Option (Except Failure Entry)}

/-- Only which documents have entries counts, and not where they had them from. -/
theorem congr (h : ∀ id, taken id ↔ taken' id) (hr : Gives root n taken line r) :
    Gives root n taken' line r :=
  ⟨hr.nothing_iff, fun e ↦ by rw [hr.entry_iff, h], hr.failure⟩

theorem blank (h : ∀ c ∈ line, isBlank c = true) : Gives root n taken line none where
  nothing_iff := iff_of_true rfl h
  entry_iff _ := iff_of_false (by simp) fun hentry ↦ hentry.1.not_forall_isBlank h
  failure _ hf := absurd hf (by simp)

theorem fault (h : ¬ ∀ c ∈ line, isBlank c = true) {fault : LineFault}
    (hfault : readLine (trim line) = .error fault) :
    Gives root n taken line (some (.error ⟨none, manifestPath root, .line n fault⟩)) := by
  have hnone : ∀ id url, ¬ Offers line id url := fun id url hoffers ↦ by
    rw [readLine_eq_ok_iff.2 hoffers] at hfault
    exact absurd hfault (by simp)
  obtain ⟨hnoBlank, hduplicate⟩ := fault_of_readLine hfault
  refine ⟨iff_of_false (by simp) h, fun e ↦ ?_, fun f hf ↦ ?_⟩
  · exact iff_of_false (by simp) fun hentry ↦ hnone _ _ hentry.1
  · obtain rfl := Except.error.inj (Option.some.inj hf)
    exact ⟨rfl, ⟨fault, rfl, rfl, hnoBlank, by simp [hduplicate, hnone]⟩, by simp [hnone]⟩

theorem duplicate (h : Offers line id url) (hid : taken id) :
    Gives root n taken line (some (.error ⟨some id, manifestPath root, .line n .duplicate⟩)) := by
  refine ⟨iff_of_false (by simp) h.not_forall_isBlank, fun e ↦ ?_, fun f hf ↦ ?_⟩
  · refine iff_of_false (by simp) ?_
    rintro ⟨hoffers, -, hfresh⟩
    rw [(hoffers.unique h).1] at hfresh
    exact hfresh hid
  · obtain rfl := Except.error.inj (Option.some.inj hf)
    refine ⟨rfl, ⟨.duplicate, rfl, rfl, ?_, iff_of_true rfl ⟨id, url, h⟩⟩, fun id' ↦ ?_⟩
    · exact iff_of_false (by simp) h.exists_isBlank
    · constructor
      · rintro ⟨rfl⟩
        exact ⟨url, h⟩
      · rintro ⟨url', h'⟩
        rw [(h'.unique h).1]

theorem entry (h : Offers line id url) (hid : ¬ taken id) :
    Gives root n taken line (some (.ok ⟨id, url, documentPath root id⟩)) := by
  refine ⟨iff_of_false (by simp) h.not_forall_isBlank, fun e ↦ ?_, by simp⟩
  constructor
  · rintro ⟨rfl⟩
    exact ⟨h, rfl, hid⟩
  · rintro ⟨hoffers, hpath, -⟩
    obtain ⟨rfl, rfl⟩ := hoffers.unique h
    rw [← hpath]

end Gives

/-! ### One line after the other -/

/-- The documents that have entries already when the line at the place `i` is read: those `seen`
before all lines, and those of the entries that earlier lines gave. -/
def TakenBefore (seen : List DocId) (rs : List (Option (Except Failure Entry))) (i : Nat)
    (id : DocId) : Prop :=
  id ∈ seen ∨ ∃ j < i, ∃ e, rs[j]? = some (some (.ok e)) ∧ e.id = id

/-- What each of the lines gives, from the line with the number `n` on, when the documents `seen`
have entries already. -/
structure LineByLine (root : Path) (n : Nat) (seen : List DocId) (ls : List (List Char))
    (rs : List (Option (Except Failure Entry))) : Prop where
  /-- Each line gives something of its own. -/
  length_eq : rs.length = ls.length
  /-- What it is depends on the line, and on the documents of earlier entries. -/
  gives : ∀ (i : Nat) (line : List Char) r, ls[i]? = some line → rs[i]? = some r →
    Gives root (n + i) (TakenBefore seen rs i) line r

/-- The document that has an entry by what a line gives. -/
def takenBy (r : Option (Except Failure Entry)) : List DocId :=
  ((r.bind entry?).map Entry.id).toList

theorem mem_takenBy_iff {r : Option (Except Failure Entry)} :
    id ∈ takenBy r ↔ ∃ e, r = some (.ok e) ∧ e.id = id := by
  rcases r with - | f | e
  · simp [takenBy]
  · simp [takenBy, entry?]
  · simp [takenBy, entry?, eq_comm]

namespace LineByLine

variable {r : Option (Except Failure Entry)} {rs : List (Option (Except Failure Entry))}

theorem nil : LineByLine root n seen [] [] :=
  ⟨rfl, by simp⟩

/-- **One line more at the beginning.** The lines after it find one more document that has an entry,
if it gives one. -/
theorem cons (hr : Gives root n (· ∈ seen) line r)
    (h : LineByLine root (n + 1) (takenBy r ++ seen) ls rs) :
    LineByLine root n seen (line :: ls) (r :: rs) where
  length_eq := by rw [List.length_cons, List.length_cons, h.length_eq]
  gives := by
    rintro (- | i) line' r' hline hr'
    · obtain rfl : line = line' := by simpa using hline
      obtain rfl : r = r' := by simpa using hr'
      exact hr.congr fun id ↦ by simp [TakenBefore]
    · have hnumber : n + (i + 1) = n + 1 + i := by omega
      rw [hnumber]
      refine (h.gives i line' r' hline hr').congr fun id ↦ ?_
      rw [TakenBefore, TakenBefore, List.mem_append, mem_takenBy_iff, Nat.exists_lt_succ_left]
      simp only [List.getElem?_cons_zero, List.getElem?_cons_succ, Option.some.injEq]
      rw [or_assoc, or_left_comm]

/-- What was given was given by a line, with the documents that had entries before it. -/
theorem exists_of_mem (h : LineByLine root n seen ls rs) (hr : r ∈ rs) :
    ∃ (i : Nat) (line : List Char), ls[i]? = some line ∧
      Gives root (n + i) (TakenBefore seen rs i) line r := by
  obtain ⟨i, hi⟩ := List.getElem?_of_mem hr
  have hlt : i < ls.length := by
    rw [← h.length_eq]
    exact (List.getElem?_eq_some_iff.1 hi).1
  have hline : ls[i]? = some ls[i] := List.getElem?_eq_getElem hlt
  exact ⟨i, ls[i], hline, h.gives i ls[i] r hline hi⟩

/-- An entry comes from a line that gives it. -/
theorem exists_of_mem_entries (h : LineByLine root n seen ls rs)
    (he : e ∈ rs.reduceOption.filterMap entry?) :
    ∃ (i : Nat) (line : List Char), ls[i]? = some line ∧
      Gives root (n + i) (TakenBefore seen rs i) line (some (.ok e)) := by
  obtain ⟨r, hr, he⟩ := List.mem_filterMap.1 he
  rcases r with f | e'
  · exact absurd he (by simp [ entry?])
  · obtain rfl : e' = e := by simpa [ entry?] using he
    exact h.exists_of_mem (List.reduceOption_mem_iff.1 hr)

/-- A failure comes from a line that gives it. -/
theorem exists_of_mem_failures (h : LineByLine root n seen ls rs)
    (hf : f ∈ rs.reduceOption.filterMap failure?) :
    ∃ (i : Nat) (line : List Char), ls[i]? = some line ∧
      Gives root (n + i) (TakenBefore seen rs i) line (some (.error f)) := by
  obtain ⟨r, hr, hf⟩ := List.mem_filterMap.1 hf
  rcases r with f' | e
  · obtain rfl : f' = f := by simpa [failure?] using hf
    exact h.exists_of_mem (List.reduceOption_mem_iff.1 hr)
  · exact absurd hf (by simp [failure?])

end LineByLine

/-- **A manifest is read line by line.** -/
theorem exists_lineByLine (root : Path) (n : Nat) (seen : List DocId) (ls : List (List Char)) :
    ∃ rs, LineByLine root n seen ls rs ∧ readLines root n seen ls = rs.reduceOption := by
  fun_induction readLines root n seen ls with
  | case1 n seen => exact ⟨[], .nil, rfl⟩
  | case2 n seen line rest hblank ih =>
    obtain ⟨rs, hrs, hread⟩ := ih
    have hblank : ∀ c ∈ line, isBlank c = true := trim_eq_nil_iff.1 (by simpa using hblank)
    exact ⟨none :: rs, .cons (.blank hblank) hrs, hread⟩
  | case3 n seen line rest hblank fault hfault ih =>
    obtain ⟨rs, hrs, hread⟩ := ih
    have hblank : ¬ ∀ c ∈ line, isBlank c = true := fun h ↦
      hblank (by simpa using trim_eq_nil_iff.2 h)
    exact ⟨_ :: rs, .cons (.fault hblank hfault) hrs, congrArg (_ :: ·) hread⟩
  | case4 n seen line rest hblank id url hline hseen ih =>
    obtain ⟨rs, hrs, hread⟩ := ih
    exact ⟨_ :: rs, .cons (.duplicate (readLine_eq_ok_iff.1 hline) hseen) hrs,
      congrArg (_ :: ·) hread⟩
  | case5 n seen line rest hblank id url hline hseen ih =>
    obtain ⟨rs, hrs, hread⟩ := ih
    exact ⟨_ :: rs, .cons (.entry (readLine_eq_ok_iff.1 hline) hseen) hrs, congrArg (_ :: ·) hread⟩

/-! ### Manifests -/

/-- No two entries have one file. -/
theorem nodup_paths (root : Path) (text : String) :
    ((ofManifest root text).entries.map fun e ↦ e.path.text).Nodup := by
  have hids := List.pairwise_map.1 (nodup_ids root text)
  refine List.pairwise_map.2 (hids.imp_of_mem fun {a b} ha hb hne heq ↦ hne ?_)
  rw [path_of_mem ha, path_of_mem hb] at heq
  exact text_documentPath_inj heq

/-- **A manifest follows its grammar.** Every line, blanks around it left aside, gives nothing if it
is blank, and otherwise one entry or one failure: an entry if it is the first line to offer a
document, and else a failure under its own number. The entries and the failures are those of the
lines, in their order. So the entries have distinct identifiers, however these are spelled; each has
an address without blanks at its ends, and a file of its own in the directory, named by the
canonical spelling; and a failure names a document only if it is for a second line. -/
theorem manifest_follows_grammar (root : Path) (text : String) :
    ∃ rs, LineByLine root 1 [] (lines (· = '\n') text.toList) rs ∧
      (ofManifest root text).entries = rs.reduceOption.filterMap entry? ∧
      (ofManifest root text).failures = rs.reduceOption.filterMap failure? ∧
      ((ofManifest root text).entries.map Entry.id).Nodup ∧
      ((ofManifest root text).entries.map fun e ↦ e.path.text).Nodup ∧
      (∀ e ∈ (ofManifest root text).entries, e.url ≠ "" ∧ trim e.url.toList = e.url.toList ∧
        e.path = root.child (e.id.text ++ ".txt")) ∧
      ∀ f ∈ (ofManifest root text).failures, ∃ n fault, f.cause = .line n fault ∧
        (f.id?.isSome = true ↔ fault = .duplicate) := by
  obtain ⟨rs, hrs, hread⟩ := exists_lineByLine root 1 [] (lines (· = '\n') text.toList)
  have hentries : (ofManifest root text).entries = rs.reduceOption.filterMap entry? := by
    rw [← hread]
    rfl
  have hfailures : (ofManifest root text).failures = rs.reduceOption.filterMap failure? := by
    rw [← hread]
    rfl
  refine ⟨rs, hrs, hentries, hfailures, nodup_ids root text, nodup_paths root text,
    fun e he ↦ ?_, fun f hf ↦ ?_⟩
  · rw [hentries] at he
    obtain ⟨i, line, -, hgives⟩ := hrs.exists_of_mem_entries he
    obtain ⟨hoffers, hpath, -⟩ := (hgives.entry_iff e).1 rfl
    exact ⟨hoffers.ne_empty, hoffers.trim_toList, hpath⟩
  · rw [hfailures] at hf
    obtain ⟨i, line, -, hgives⟩ := hrs.exists_of_mem_failures hf
    have hown : IsFailureOf root (1 + i) line f := hgives.failure f rfl
    obtain ⟨fault, hcause, -, -, hduplicate⟩ := hown.exists_fault
    refine ⟨1 + i, fault, hcause, ?_⟩
    rw [hduplicate, Option.isSome_iff_exists]
    exact exists_congr hown.id?_eq_some_iff

example : ofManifest ⟨"c"⟩ "7 a\n007 b\n \n\u3000+7\tc\n7\n8\u00a0 x\ty \r\n" =
    { root := ⟨"c"⟩
      entries := [⟨7, "a", ⟨"c/7.txt"⟩⟩, ⟨8, "x\ty", ⟨"c/8.txt"⟩⟩]
      failures := [⟨some 7, ⟨"c/index.txt"⟩, .line 2 .duplicate⟩,
        ⟨some 7, ⟨"c/index.txt"⟩, .line 4 .duplicate⟩,
        ⟨none, ⟨"c/index.txt"⟩, .line 5 .noBlank⟩] } := by
  decide +kernel

end Corpus

end Concordance
