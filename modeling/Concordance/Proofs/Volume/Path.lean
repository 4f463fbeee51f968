import Concordance.Proofs.Cut
import Concordance.Volume.Replacement

/-!
# Segments of paths

The path to a name inside `p` is what `p` begins with, followed by the name (`text_child`), so its
segments are those of `p` and the name (`segments_child`): paths to different names inside one
directory differ in their last segment and in nothing else.

The sibling of a path is the path to a name inside some directory, and that name is longer than the
last name of the path (`exists_sibling_eq_child`).
-/

namespace Concordance

namespace Path

/-- A segment that names something in a directory. -/
structure IsName (n : String) : Prop where
  /-- It is not empty. -/
  ne_empty : n ≠ ""
  /-- It is not the directory itself. -/
  ne_dot : n ≠ "."
  /-- It is not the directory above. -/
  ne_dots : n ≠ ".."
  /-- It is one segment. -/
  no_slash : ∀ c ∈ n.toList, c ≠ '/'

theorem IsName.head?_ne {n : String} (h : IsName n) : n.toList.head? ≠ some '/' := by
  intro hhead
  exact h.no_slash '/' (List.mem_of_mem_head? hhead) rfl

/-- A name leads somewhere else, as it is neither empty nor a dot. -/
theorem IsName.not_isIdle {n : String} (h : IsName n) : isIdle n = false := by
  simp [isIdle, h.ne_empty, h.ne_dot]

/-! ### Names inside a directory -/

/-- What the path to a name inside `p` begins with. -/
def lead (p : Path) : String :=
  if p.text.isEmpty then "" else if p.text.toList.getLast? = some '/' then p.text else p.text ++ "/"

/-- The path to a name ends with the name. -/
theorem text_child {p : Path} {n : String} (h : n.toList.head? ≠ some '/') :
    (p.child n).text = p.lead ++ n := by
  have habs : isAbsolute ⟨n⟩ = false := by simpa [isAbsolute] using h
  rw [child, join, lead]
  rw [habs, Bool.false_or]
  split
  · exact (String.empty_append).symm
  · split <;> rfl

/-- **Different names are at different paths.** -/
theorem text_child_inj {p : Path} {m n : String} (hm : m.toList.head? ≠ some '/')
    (hn : n.toList.head? ≠ some '/') (h : (p.child m).text = (p.child n).text) : m = n := by
  rw [text_child hm, text_child hn] at h
  have hlist := congrArg String.toList h
  simp only [String.toList_append] at hlist
  exact String.toList_inj.1 (List.append_cancel_left hlist)

/-- The lead is empty or ends in a slash. -/
theorem lead_eq (p : Path) : p.lead = "" ∨ ∃ l, p.lead.toList = l ++ ['/'] := by
  rw [lead]
  split
  · exact .inl rfl
  · split
    · next hlast =>
      obtain ⟨l, hl⟩ := List.getLast?_eq_some_iff.1 hlast
      exact .inr ⟨l, hl⟩
    · exact .inr ⟨p.text.toList, by rw [String.toList_append]; rfl⟩

/-- The segments before the last one of a path to a name inside `p`. -/
def leadSegments (p : Path) : List String :=
  if p.lead = "" then [] else (cut (· = '/') p.lead.toList.dropLast).map String.ofList

/-- **The path to a name inside a directory has the name as its last segment.** -/
theorem segments_child {p : Path} {n : String} (h : IsName n) :
    (p.child n).segments = p.leadSegments ++ [n] := by
  have hcut : cut (· = '/') n.toList = [n.toList] :=
    cut_of_forall_not_sep fun c hc ↦ by simpa using h.no_slash c hc
  rw [segments, text_child h.head?_ne, String.toList_append, leadSegments]
  rcases p.lead_eq with hlead | ⟨l, hlead⟩
  · simp [hlead, hcut]
  · have hne : p.lead ≠ "" := by
      intro hempty
      rw [hempty] at hlead
      simp at hlead
    rw [if_neg hne, hlead, List.dropLast_concat, List.append_assoc, List.singleton_append,
      cut_append_cons (by simp), hcut]
    simp

/-- Whether a path to a name inside `p` begins at the root depends on `p` alone. -/
theorem isAbsolute_child {p : Path} {n : String} (h : IsName n) :
    (p.child n).isAbsolute = decide (p.lead.toList.head? = some '/') := by
  rw [isAbsolute, text_child h.head?_ne, String.toList_append]
  rcases p.lead_eq with hlead | ⟨l, hlead⟩
  · simpa [hlead] using h.head?_ne
  · rw [hlead]
    cases l <;> simp

/-! ### The last name -/

private theorem head?_dropWhile_concat {α : Type} {p : α → Bool} {a : α} (h : p a = true)
    (l : List α) : ((l ++ [a]).dropWhile p).head? = (l.dropWhile p).head? := by
  induction l with
  | nil => simp [h]
  | cons b l ih =>
    by_cases hb : p b = true
    · simpa [hb] using ih
    · simp [hb]

/-- The segments that count are the same, whatever the path begins with. -/
private theorem head?_reverseSegments (p : Path) :
    (p.reverseSegments.dropWhile isIdle).head? = (p.segments.reverse.dropWhile isIdle).head? := by
  rw [reverseSegments, segments, stem]
  split
  · next t ht =>
    rw [show p.text.toList.drop "/".length = t by rw [ht]; rfl, ht, cut_cons_of_sep (by simp),
      List.map_cons, List.reverse_cons, head?_dropWhile_concat (by decide), List.map_reverse]
  · next ht =>
    rw [ht]
    decide
  · next t ht =>
    have hcut : cut (· = '/') ('.' :: '/' :: t) = ['.'] :: cut (· = '/') t := by
      rw [cut_cons_of_not_sep (by decide), cut_cons_of_sep (by simp)]
      rfl
    rw [show p.text.toList.drop ".".length = '/' :: t by rw [ht]; rfl, ht, hcut,
      cut_cons_of_sep (by simp), List.map_cons, List.reverse_cons, List.reverse_cons,
      List.map_append, head?_dropWhile_concat (by decide), List.map_singleton,
      head?_dropWhile_concat (by decide), List.map_reverse]
  · rw [show ("" : String).length = 0 from rfl, List.drop_zero, List.map_reverse]

/-- The last segment that counts is the last name, unless it leads upwards. -/
theorem fileName?_of_segments {p : Path} {n : String} {before : List String} (h : IsName n)
    (hp : p.segments.reverse.dropWhile (· = "") = n :: before) : p.fileName? = some n := by
  have hdrop : p.segments.reverse.dropWhile isIdle = n :: before := by
    have hempty : ∀ l : List String,
        l.dropWhile isIdle = (l.dropWhile (· = "")).dropWhile isIdle := by
      intro l
      induction l with
      | nil => rfl
      | cons s l ih =>
        by_cases hs : s = ""
        · subst hs
          simpa [isIdle] using ih
        · simp [hs]
    rw [hempty, hp, List.dropWhile_cons_of_neg (by simp [h.not_isIdle])]
  have hhead := p.head?_reverseSegments
  rw [hdrop] at hhead
  rw [fileName?]
  cases hr : p.reverseSegments.dropWhile isIdle with
  | nil => rw [hr] at hhead; exact absurd hhead (by simp)
  | cons s l =>
    rw [hr] at hhead
    obtain rfl : s = n := by simpa using hhead
    simp [h.ne_dots]

/-! ### Siblings -/

/-- A name with an extension is a name: what ends in a character other than a dot is not one of the
segments that lead nowhere new. -/
theorem IsName.append {n ext : String} (h : ∀ c ∈ n.toList, c ≠ '/') (hext : '/' ∉ ext.toList)
    (hlast : ∃ c, ext.toList.getLast? = some c ∧ c ≠ '.') : IsName (n ++ ext) := by
  obtain ⟨d, hd, hdot⟩ := hlast
  have hlast : (n ++ ext).toList.getLast? = some d := by
    rw [String.toList_append, List.getLast?_append, hd]
    rfl
  refine ⟨?_, ?_, ?_, fun c hc ↦ ?_⟩
  · intro hn
    rw [hn] at hlast
    exact absurd hlast (by simp)
  · intro hn
    rw [hn] at hlast
    exact hdot (Option.some.inj hlast).symm
  · intro hn
    rw [hn] at hlast
    exact hdot (Option.some.inj hlast).symm
  · rw [String.toList_append] at hc
    rcases List.mem_append.1 hc with hc | hc
    · exact h c hc
    · rintro rfl
      exact hext hc

theorem IsName.append_tmp {n : String} (h : ∀ c ∈ n.toList, c ≠ '/') : IsName (n ++ ".tmp") :=
  .append h (by decide) ⟨'p', rfl, by decide⟩

/-- **The sibling of a path is a name inside a directory**, made of the last name of the path. -/
theorem exists_sibling_eq_child (p : Path) :
    ∃ q : Path, p.sibling = q.child (p.fileName?.getD "" ++ ".tmp") := by
  rw [sibling, withFileName]
  split
  · next q _ hq => exact ⟨q, rfl⟩
  · exact ⟨p, rfl⟩

end Path

end Concordance
