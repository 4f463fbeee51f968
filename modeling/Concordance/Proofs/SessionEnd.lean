import Concordance.Proofs.SessionCourse

/-!
# How sessions end

A session takes its input line by line, and whatever a line asks for, it is answered in whole lines
(`exists_isLines_answer`) and the session goes on. There is one kind of line that it cannot go on
from: a line that is not text. A session ends there and leaves that line and all behind it, however
many queries these hold. So it comes to the end of its input exactly if the input is text
(`session_answers_every_line_of_text`).
-/

namespace Concordance

/-! ### Answers are whole lines -/

namespace Index

/-- The line of a document is whole even if its address has line breaks in it; it is then several
lines. -/
theorem exists_isLines_sourceLine (x : Index) (id : DocId) : ∃ n, IsLines n (x.sourceLine id) := by
  rw [sourceLine]
  cases x.source? id with
  | none => exact ⟨0, isLines_zero⟩
  | some url =>
    obtain ⟨n, hn⟩ := exists_isLines_append (id.text ++ "\t" ++ url) (b := "\n") (by decide)
    exact ⟨n + 1, hn⟩

/-- A listing is made of whole lines, the first of which is always there. -/
theorem exists_isLines_listWithSources (x : Index) (ids : List DocId) :
    ∃ n, IsLines (n + 1) (x.listWithSources ids) := by
  have hsources (l : List DocId) : ∃ n, IsLines n (String.join (l.map x.sourceLine)) := by
    induction l with
    | nil => exact ⟨0, isLines_zero⟩
    | cons id l ih =>
      obtain ⟨m, hm⟩ := x.exists_isLines_sourceLine id
      obtain ⟨n, hn⟩ := ih
      rw [List.map_cons, String.join_cons]
      exact ⟨m + n, hm.append hn⟩
  obtain ⟨m, hm⟩ := exists_isLines_append (listIds ids) (b := "\n") (by decide)
  obtain ⟨n, hn⟩ := hsources ids
  exact ⟨m + n, Nat.add_right_comm m 1 n ▸ hm.append hn⟩

theorem exists_isLines_answerText (x : Index) (r : QueryReader) (showSources : Bool)
    (query : String) : ∃ n, IsLines (n + 1) (x.answerText r showSources query) := by
  rw [answerText]
  cases x.search r query with
  | error e => exact exists_isLines_append _ (by decide)
  | ok ids =>
    cases showSources with
    | false => exact exists_isLines_append _ (by decide)
    | true => exact x.exists_isLines_listWithSources ids

end Index

namespace Session

variable {s : Session} {o : Nat → Outside} {st : SessionState}

theorem exists_isLines_rebuild (s : Session) (st : SessionState) :
    ∃ n, IsLines (n + 1) (s.rebuild st).2 := by
  unfold rebuild
  split
  · dsimp only
    exact exists_isLines (by decide)
  · split
    · exact exists_isLines_append _ (by decide)
    · dsimp only
      exact exists_isLines (by decide)

/-- **Whatever a line asks for, it is answered in whole lines**, in one at least. -/
theorem exists_isLines_answer (s : Session) (st : SessionState) (l : SessionLine) :
    ∃ n, IsLines (n + 1) (s.answer st l).2 := by
  unfold answer
  split
  next text => exact st.index.exists_isLines_answerText s.reader s.showSources text
  next => exact exists_isLines_append _ (by decide)
  next => exact s.exists_isLines_rebuild st
  next => exact exists_isLines_append _ (by decide)
  next => exact exists_isLines_append _ (by decide)

/-! ### The answers of a session -/

/-- The answers to the lines. -/
def answers (s : Session) (o : Nat → Outside) (st : SessionState) (ls : List String) :
    List String :=
  ls.mapIdx fun k line ↦ ((s.under (o k)).answer (s.stateBefore o st ls k) (.ofText line)).2

theorem blocks_eq (s : Session) (o : Nat → Outside) (st : SessionState) (ls : List String) :
    s.blocks o st ls = (s.answers o st ls).map (· ++ s.reader.spelling.prompt) := by
  rw [blocks, answers, List.mapIdx_eq_zipIdx_map, List.mapIdx_eq_zipIdx_map, List.map_map]
  rfl

/-- The answer to a line is that of the session as the lines before have left it. -/
theorem getElem?_answers (s : Session) (o : Nat → Outside) (st : SessionState) {ls : List String}
    {k : Nat} {line : String} (h : ls[k]? = some line) :
    (s.answers o st ls)[k]? =
      some ((s.under (o k)).answer (s.stateBefore o st ls k) (.ofText line)).2 := by
  rw [answers, List.getElem?_mapIdx, h]
  rfl

/-- **The lines of an input up to the first that is not text.** -/
theorem exists_text_before (ls : List Octets) :
    ∃ (ts : List String) (rest : List Octets),
      ls = ts.map octetsOf ++ rest ∧ ∀ line ∈ rest.head?, textOf? line = none := by
  induction ls with
  | nil => exact ⟨[], [], rfl, by simp⟩
  | cons line ls ih =>
    cases hline : textOf? line with
    | none => exact ⟨[], line :: ls, rfl, by simp [hline]⟩
    | some t =>
      obtain ⟨ts, rest, rfl, hrest⟩ := ih
      refine ⟨t :: ts, rest, ?_, hrest⟩
      rw [textOf?_eq_some_iff.1 hline, List.map_cons, List.cons_append]

/-- What a session comes to if it answers the lines `ls` and leaves `rest`. -/
structure Reaches (s : Session) (o : Nat → Outside) (st : SessionState) (input : Octets)
    (ls : List String) (rest : List Octets) : Prop where
  /-- The lines of the input are those that are answered and then those that are left. -/
  lines_eq : lines (· = 0x0a) input = ls.map octetsOf ++ rest
  /-- Only a line that is not text stops the session. -/
  stopped : ∀ line ∈ rest.head?, textOf? line = none
  /-- No line is left exactly if the input is text. -/
  complete : rest = [] ↔ ∃ text, input = octetsOf text
  /-- Every answer is made of whole lines, of one at least. -/
  answered : (s.answers o st ls).length = ls.length ∧
    ∀ a ∈ s.answers o st ls, ∃ n, IsLines (n + 1) a
  /-- A prompt stands before the first answer and after each. The state at the end is that after the
  last line that was answered. -/
  transcript : s.runUnder o st input =
    ⟨s.stateBefore o st ls ls.length,
      s.reader.spelling.prompt ++
        String.join ((s.answers o st ls).map (· ++ s.reader.spelling.prompt)), rest.isEmpty⟩

/-- Behind lines of text, a session stops at a line that is not text. -/
theorem answerLinesUnder_append_of_stopped (s : Session) (o : Nat → Outside) (st : SessionState)
    (ls : List String) {rest : List Octets} (h : ∀ line ∈ rest.head?, textOf? line = none) :
    s.answerLinesUnder o st (ls.map octetsOf ++ rest) =
      ⟨s.stateBefore o st ls ls.length, String.join (s.blocks o st ls), rest.isEmpty⟩ := by
  have hrest (o : Nat → Outside) (st : SessionState) :
      s.answerLinesUnder o st rest = ⟨st, "", rest.isEmpty⟩ := by
    cases rest with
    | nil => rfl
    | cons line rest =>
      rw [answerLinesUnder, h line rfl]
      rfl
  rw [answerLinesUnder_append (by rw [answerLinesUnder_eq]), answerLinesUnder_eq]
  simp only [hrest, String.append_empty]

/-- **A session answers every line up to the first that is not text**, whatever the lines ask for
and whatever happens from outside. It comes to the end of its input if the input is text, and only
then; and if nothing changes from outside, the runs of which that is said are those of `run`. -/
theorem session_answers_every_line_of_text (s : Session) (o : Nat → Outside) (st : SessionState)
    (input : Octets) :
    (∃ ls rest, s.Reaches o st input ls rest) ∧
      ∀ input, s.runUnder (fun _ ↦ s.outside) st input = s.run st input := by
  refine ⟨?_, s.runUnder_outside st⟩
  obtain ⟨ls, rest, hlines, hrest⟩ := exists_text_before (lines (· = 0x0a) input)
  refine ⟨ls, rest, hlines, hrest, ?_, ⟨List.length_mapIdx, fun a ha ↦ ?_⟩, ?_⟩
  · rw [exists_eq_octetsOf_iff, hlines]
    constructor
    · rintro rfl l hl
      obtain ⟨t, -, rfl⟩ := List.mem_map.1 (List.append_nil _ ▸ hl)
      exact ⟨t, rfl⟩
    · intro h
      cases rest with
      | nil => rfl
      | cons line rest =>
        obtain ⟨t, ht⟩ := h line (List.mem_append_right _ List.mem_cons_self)
        exact absurd (hrest line rfl) (by rw [ht, textOf?_octetsOf]; simp)
  · obtain ⟨k, hk, rfl⟩ := List.exists_of_mem_mapIdx ha
    exact (s.under (o k)).exists_isLines_answer _ _
  · rw [runUnder, hlines, s.answerLinesUnder_append_of_stopped o st ls hrest, blocks_eq]

/-- An octet that no text begins with, and a query on the next line. -/
def garbled : Octets := 0xff :: 0x0a :: octetsOf "кот\n"

/-- The page is indexed as a document that the query finds. -/
def stocked : SessionState := ⟨Volume.onePage, (∅ : Index).add 0 ["кот"]⟩

/-- The query alone is answered. Behind a line that is not text it is not, nor is that line: the
session has ended with both lines left. -/
theorem line_not_text_ends_session :
    lines (· = 0x0a) garbled = [[0xff], octetsOf "кот"] ∧
      (visitor.run stocked (octetsOf "кот\n")).output =
        visitor.reader.spelling.prompt ++ "[0]\n" ++ visitor.reader.spelling.prompt ∧
      visitor.run stocked garbled = ⟨stocked, visitor.reader.spelling.prompt, false⟩ := by
  decide +kernel

end Session

end Concordance
