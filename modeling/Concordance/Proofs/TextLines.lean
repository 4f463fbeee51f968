import Mathlib.Data.Set.List
import Concordance.Proofs.Octets

/-!
# Texts of whole lines

A text is made of whole lines if each of its lines is ended by a line break, the last one too
(`IsLines`). Texts of whole lines can be put one behind the other, and each is read as the lines that
it was written from (`textLines_joinLines`). Whatever else is in a text, it is made of whole lines if
a line break is its last character (`exists_isLines`).

Among octets it is the same: the lines of the octets of a text are the octets of its lines
(`lines_octetsOf`), and octets whose lines are all text are text (`exists_eq_octetsOf_iff`).
-/

namespace Concordance

/-- The lines of a text. -/
def textLines (text : String) : List String :=
  (lines (· = '\n') text.toList).map String.ofList

/-- The text with the given lines, each ended by a line break. -/
def joinLines (ls : List String) : String :=
  String.join (ls.map (· ++ "\n"))

/-- The text is made of `n` whole lines. -/
def IsLines (n : Nat) (text : String) : Prop :=
  ∃ ls : List String, ls.length = n ∧ (∀ l ∈ ls, '\n' ∉ l.toList) ∧ text = joinLines ls

variable {a b text l : String} {ls : List String} {m n : Nat}

/-! ### Writing lines and reading them -/

theorem joinLines_append (ls ms : List String) :
    joinLines (ls ++ ms) = joinLines ls ++ joinLines ms := by
  rw [joinLines, List.map_append, String.join_append, joinLines, joinLines]

theorem joinLines_cons (l : String) (ls : List String) :
    joinLines (l :: ls) = l ++ "\n" ++ joinLines ls := by
  rw [joinLines, List.map_cons, String.join_cons, joinLines]

theorem joinLines_singleton (l : String) : joinLines [l] = l ++ "\n" := by
  rw [joinLines_cons, joinLines, List.map_nil, String.join_nil, String.append_empty]

/-- A line that ends each of several texts is a line of the whole. -/
theorem joinLines_flatMap (p : String) (ls : List (List String)) :
    joinLines (ls.flatMap (· ++ [p])) = String.join (ls.map fun l ↦ joinLines l ++ (p ++ "\n")) := by
  induction ls with
  | nil => rfl
  | cons l ls ih =>
    rw [List.flatMap_cons, joinLines_append, joinLines_append, joinLines_singleton, ih,
      List.map_cons, String.join_cons]

theorem toList_joinLines (ls : List String) :
    (joinLines ls).toList = (ls.map String.toList).flatMap (· ++ ['\n']) := by
  induction ls with
  | nil => rfl
  | cons l ls ih =>
    rw [joinLines_cons, String.toList_append, String.toList_append, ih, List.map_cons,
      List.flatMap_cons]
    rfl

/-- Lines without line breaks in them are read as they were written. -/
theorem lines_joinLines (h : ∀ l ∈ ls, '\n' ∉ l.toList) :
    lines (· = '\n') (joinLines ls).toList = ls.map String.toList := by
  rw [toList_joinLines]
  refine lines_flatMap (by simp) fun l hl c hc ↦ decide_eq_false ?_
  obtain ⟨t, ht, rfl⟩ := List.mem_map.1 hl
  rintro rfl
  exact h t ht hc

/-- **Lines without line breaks are read as they were written.** -/
theorem textLines_joinLines (h : ∀ l ∈ ls, '\n' ∉ l.toList) : textLines (joinLines ls) = ls := by
  rw [textLines, lines_joinLines h, List.map_map]
  simp

theorem textLines_line (h : '\n' ∉ a.toList) : textLines (a ++ "\n") = [a] := by
  rw [← joinLines_singleton]
  refine textLines_joinLines fun l hl ↦ ?_
  rwa [List.mem_singleton.1 hl]

/-- The last line need not be ended, unless it is empty. -/
theorem textLines_of_ne_empty (h : '\n' ∉ a.toList) (ha : a ≠ "") : textLines a = [a] := by
  have hcut : cut (· = '\n') a.toList = [a.toList] :=
    cut_of_forall_not_sep fun c hc ↦ decide_eq_false fun hbreak ↦ h (hbreak ▸ hc)
  rw [textLines, lines, hcut]
  split
  next hlast => exact absurd (String.toList_eq_nil_iff.1 (by simpa using hlast)) ha
  next => rw [List.map_singleton, String.ofList_toList]

/-- What ends with a line break does not reach into the lines after it. -/
theorem textLines_append (a b : String) :
    textLines (a ++ "\n" ++ b) = textLines (a ++ "\n") ++ textLines b := by
  have hbreak : (a ++ "\n").toList = a.toList ++ ['\n'] := by
    rw [String.toList_append]
    rfl
  rw [textLines, textLines, textLines, String.toList_append, hbreak, lines_append (by decide),
    List.map_append]

/-- What has no line breaks ends the last line. -/
theorem exists_textLines_append (h : '\n' ∉ b.toList) (a : String) :
    ∃ ls l, textLines (a ++ b ++ "\n") = ls ++ [l ++ b] := by
  have hb : ∀ c ∈ b.toList, decide (c = '\n') = false :=
    fun c hc ↦ decide_eq_false fun hbreak ↦ h (hbreak ▸ hc)
  obtain ⟨rs, r, hcut⟩ := exists_cut_append_of_forall_not_sep hb a.toList
  have hbreak : (a ++ b ++ "\n").toList = (a.toList ++ b.toList) ++ '\n' :: [] := by
    rw [String.toList_append, String.toList_append]
    rfl
  refine ⟨rs.map String.ofList, String.ofList r, ?_⟩
  rw [textLines, hbreak, lines_append_cons (by decide), hcut, lines_nil, List.append_nil,
    List.map_append, List.map_singleton, String.ofList_append, String.ofList_toList]

theorem newline_not_mem_of_mem_textLines (h : l ∈ textLines text) : '\n' ∉ l.toList := by
  obtain ⟨r, hr, rfl⟩ := List.mem_map.1 h
  rw [String.toList_ofList]
  intro hmem
  exact absurd (not_sep_of_mem_cut (mem_cut_of_mem_lines hr) hmem) (by simp)

/-! ### Texts of whole lines -/

theorem isLines_zero : IsLines 0 "" := ⟨[], rfl, by simp, rfl⟩

/-- A text without line breaks is a line once one is put behind it. -/
theorem isLines_one (h : '\n' ∉ a.toList) : IsLines 1 (a ++ "\n") := by
  refine ⟨[a], rfl, fun l hl ↦ ?_, (joinLines_singleton a).symm⟩
  rwa [List.mem_singleton.1 hl]

/-- Whole lines may be put behind whole lines. -/
theorem IsLines.append (ha : IsLines m a) (hb : IsLines n b) : IsLines (m + n) (a ++ b) := by
  obtain ⟨ls, rfl, hls, rfl⟩ := ha
  obtain ⟨ms, rfl, hms, rfl⟩ := hb
  refine ⟨ls ++ ms, List.length_append, fun l hl ↦ ?_, (joinLines_append ls ms).symm⟩
  rcases List.mem_append.1 hl with hl | hl
  · exact hls l hl
  · exact hms l hl

/-- A text of whole lines is put together from its lines again. -/
theorem IsLines.joinLines_textLines (h : IsLines n a) : joinLines (textLines a) = a := by
  obtain ⟨ls, -, hls, rfl⟩ := h
  rw [textLines_joinLines hls]

/-- **A text that ends with a line break is made of whole lines**, of one at least. -/
theorem exists_isLines (h : text.toList.getLast? = some '\n') : ∃ n, IsLines (n + 1) text := by
  obtain ⟨l, hl⟩ := List.getLast?_eq_some_iff.1 h
  have hjoin : text = joinLines ((cut (· = '\n') l).map String.ofList) := by
    refine String.toList_inj.1 ?_
    rw [toList_joinLines, List.map_map, hl]
    simp [flatMap_cut]
  have hpos : 0 < (cut (· = '\n') l).length := List.length_pos_iff.2 (cut_ne_nil _ l)
  refine ⟨(cut (· = '\n') l).length - 1, _, ?_, fun m hm ↦ ?_, hjoin⟩
  · rw [List.length_map, Nat.sub_add_cancel hpos]
  · obtain ⟨r, hr, rfl⟩ := List.mem_map.1 hm
    rw [String.toList_ofList]
    exact fun hmem ↦ absurd (not_sep_of_mem_cut hr hmem) (by simp)

theorem getLast?_append (a : String) {c : Char} (h : b.toList.getLast? = some c) :
    (a ++ b).toList.getLast? = some c := by
  rw [String.toList_append, List.getLast?_append, h]
  rfl

/-- A text that ends with a line break is made of whole lines, whatever is in front of it. -/
theorem exists_isLines_append (a : String) (h : b.toList.getLast? = some '\n') :
    ∃ n, IsLines (n + 1) (a ++ b) :=
  exists_isLines (getLast?_append a h)

/-! ### Octets of lines -/

/-- **The lines of a text's octets are the octets of its lines.** -/
theorem lines_octetsOf (text : String) :
    lines (· = 0x0a) (octetsOf text) = (textLines text).map octetsOf := by
  rw [octetsOf, lines_utf8, textLines, List.map_map]
  refine List.map_congr_left fun l _ ↦ ?_
  simp [octetsOf]

theorem octetsOf_joinLines (ls : List String) :
    octetsOf (joinLines ls) = (ls.map octetsOf).flatMap (· ++ [0x0a]) := by
  induction ls with
  | nil => rfl
  | cons l ls ih =>
    rw [joinLines_cons, octetsOf_append, octetsOf_append, octetsOf_newline, ih, List.map_cons,
      List.flatMap_cons]

/-- **Octets are those of a text if their lines are.** -/
theorem exists_eq_octetsOf_iff {o : Octets} :
    (∃ t, o = octetsOf t) ↔ ∀ l ∈ lines (· = 0x0a) o, ∃ t, l = octetsOf t := by
  constructor
  · rintro ⟨t, rfl⟩ l hl
    rw [lines_octetsOf] at hl
    obtain ⟨t, -, rfl⟩ := List.mem_map.1 hl
    exact ⟨t, rfl⟩
  · intro h
    have hpieces : ∀ l ∈ cut (· = 0x0a) o, ∃ t, octetsOf t = l := by
      intro l hl
      by_cases hnil : l = []
      · exact ⟨"", hnil.symm⟩
      · obtain ⟨t, ht⟩ := h l (mem_lines_of_mem_cut hl hnil)
        exact ⟨t, ht.symm⟩
    obtain ⟨ts, hts⟩ : cut (· = 0x0a) o ∈ Set.range (List.map octetsOf) := by
      rw [Set.range_list_map]
      exact hpieces
    -- The last piece is not ended by a line break, so what is before it is put together by itself.
    obtain rfl | ⟨init, last, rfl⟩ := ts.eq_nil_or_concat
    · exact absurd hts.symm (cut_ne_nil _ o)
    · have hwhole : octetsOf (joinLines init ++ last) ++ [0x0a] = o ++ [0x0a] := by
        rw [← flatMap_cut 0x0a o, ← hts, List.concat_eq_append, List.map_append,
          List.flatMap_append, List.map_singleton, List.flatMap_singleton, octetsOf_append,
          octetsOf_joinLines, List.append_assoc]
      exact ⟨_, (List.append_cancel_right hwhole).symm⟩

end Concordance
