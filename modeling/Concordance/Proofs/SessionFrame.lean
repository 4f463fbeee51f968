import Concordance.Proofs.SessionEnd
import Concordance.Proofs.SingleLine

/-!
# How the output of a session is framed

An answer without addresses is a single line, and only that to the command `help` is two lines
(`isReply_answer`). Pieces of a query come back in answers only as quotations, and the name of an
unknown command only as a part of its line, so nothing that is typed can add lines to an answer, or
make one look like a prompt: no line of an answer begins with the letter that prompts begin with.

The output of a session is therefore cut into its answers by the prompts alone (`answersIn_eq`), and
there is one answer to each line of the input (`session_output_framed`).
-/

namespace Concordance

/-! ### Prompts -/

namespace OperatorSpelling

/-- The prompt without the line break at its end. -/
def promptLine (o : OperatorSpelling) : String :=
  String.ofList o.prompt.toList.dropLast

theorem prompt_eq (o : OperatorSpelling) : o.prompt = o.promptLine ++ "\n" := by
  have hlast : o.prompt.toList.getLast? = some '\n' := getLast?_append _ (by decide)
  obtain ⟨l, hl⟩ := List.getLast?_eq_some_iff.1 hlast
  refine String.toList_inj.1 ?_
  rw [promptLine, String.toList_append, String.toList_ofList, hl, List.dropLast_concat]
  rfl

variable {o : OperatorSpelling}

/-- Prompts are single lines in both spellings. -/
theorem newline_not_mem_promptLine (h : o = .russian ∨ o = .english) :
    '\n' ∉ o.promptLine.toList := by
  rcases h with rfl | rfl <;> decide +kernel

/-- And they begin with a letter that no answer begins with. -/
theorem head?_promptLine (h : o = .russian ∨ o = .english) :
    o.promptLine.toList.head? = some 'E' := by
  rcases h with rfl | rfl <;> decide +kernel

end OperatorSpelling

/-! ### Answers between prompts -/

/-- The texts between the lines `p` of an output, each in whole lines, without what comes before the
first. -/
def answersIn (p output : String) : List String :=
  (lines (· = p) (textLines output)).tail.map joinLines

/-- **Answers are told apart by the prompts between them**, if no line of an answer is a prompt. -/
theorem answersIn_eq {p : String} (hp : '\n' ∉ p.toList) {as : List String}
    (h : ∀ a ∈ as, joinLines (textLines a) = a ∧ p ∉ textLines a) :
    answersIn p (p ++ "\n" ++ String.join (as.map (· ++ (p ++ "\n")))) = as := by
  have hblocks : as.map (· ++ (p ++ "\n")) =
      (as.map textLines).map fun l ↦ joinLines l ++ (p ++ "\n") := by
    rw [List.map_map]
    refine List.map_congr_left fun a ha ↦ ?_
    rw [Function.comp_apply, (h a ha).1]
  have hbreak : ∀ l ∈ p :: (as.map textLines).flatMap (· ++ [p]), '\n' ∉ l.toList := by
    intro l hl
    rcases List.mem_cons.1 hl with rfl | hl
    · exact hp
    · obtain ⟨m, hm, hl⟩ := List.mem_flatMap.1 hl
      obtain ⟨a, -, rfl⟩ := List.mem_map.1 hm
      rcases List.mem_append.1 hl with hl | hl
      · exact newline_not_mem_of_mem_textLines hl
      · rwa [List.mem_singleton.1 hl]
  have hapart : ∀ ls ∈ as.map textLines, ∀ l ∈ ls, decide (l = p) = false := by
    intro ls hls l hl
    obtain ⟨a, ha, rfl⟩ := List.mem_map.1 hls
    exact decide_eq_false fun heq ↦ (h a ha).2 (heq ▸ hl)
  rw [answersIn, hblocks, ← joinLines_flatMap, ← joinLines_cons, textLines_joinLines hbreak,
    lines_cons_of_isBreak (by simp), lines_flatMap (by simp) hapart, List.tail_cons, List.map_map]
  exact (List.map_congr_left fun a ha ↦ (h a ha).1).trans (List.map_id as)

/-! ### Answers -/

/-- A line that an answer may have: it has no line break, and it does not begin with the letter that
prompts begin with. -/
def IsAnswerLine (l : String) : Prop :=
  '\n' ∉ l.toList ∧ ∃ c, l.toList.head? = some c ∧ c ≠ 'E'

/-- The text is made of `n` such lines. -/
def IsReply (n : Nat) (a : String) : Prop :=
  ∃ ls : List String, ls.length = n ∧ (∀ l ∈ ls, IsAnswerLine l) ∧ a = joinLines ls

variable {a b : String} {n : Nat}

/-- What follows on the same line does not change how the line begins. -/
theorem IsAnswerLine.append (ha : IsAnswerLine a) (hb : '\n' ∉ b.toList) :
    IsAnswerLine (a ++ b) := by
  obtain ⟨hbreak, c, hhead, hc⟩ := ha
  refine ⟨newline_not_mem_append hbreak hb, c, ?_, hc⟩
  rw [String.toList_append, List.head?_append, hhead]
  rfl

theorem isReply_one (h : IsAnswerLine a) : IsReply 1 (a ++ "\n") := by
  refine ⟨[a], rfl, fun l hl ↦ ?_, (joinLines_singleton a).symm⟩
  rwa [List.mem_singleton.1 hl]

theorem IsReply.isLines (h : IsReply n a) : IsLines n a := by
  obtain ⟨ls, hlength, hls, ha⟩ := h
  exact ⟨ls, hlength, fun l hl ↦ (hls l hl).1, ha⟩

/-- No line of an answer begins with what begins as prompts do. -/
theorem IsReply.not_isPrefix_of (h : IsReply n a) {p : String} (hp : p.toList.head? = some 'E')
    {l : String} (hl : l ∈ textLines a) : ¬ p.toList <+: l.toList := by
  obtain ⟨ls, -, hls, rfl⟩ := h
  rw [textLines_joinLines fun l hl ↦ (hls l hl).1] at hl
  obtain ⟨-, c, hhead, hc⟩ := hls l hl
  rintro ⟨t, ht⟩
  rw [← ht, List.head?_append, hp] at hhead
  exact hc (Option.some.inj hhead).symm

/-- **A query is answered on one line**, whatever its pieces are. -/
theorem Index.isReply_answerText (x : Index) (r : QueryReader) (query : String) :
    IsReply 1 (x.answerText r false query) := by
  rw [answerText]
  cases x.search r query with
  | ok ids =>
    have hline : IsAnswerLine (listIds ids) := by
      refine ⟨newline_not_mem_listIds ids, '[', ?_, by decide⟩
      rw [listIds, String.toList_append, String.toList_append]
      rfl
    exact isReply_one hline
  | error e =>
    have hlead : IsAnswerLine "error: malformed query: " := ⟨by decide, 'e', by decide, by decide⟩
    exact isReply_one (hlead.append e.newline_not_mem_message)

theorem Index.isReply_statisticsText (x : Index) : IsReply 1 x.statisticsText := by
  have hlead : IsAnswerLine "documents: " := ⟨by decide, 'd', by decide, by decide⟩
  have hdocuments := hlead.append (newline_not_mem_toString x.documentCount)
  have hlabel := hdocuments.append (show '\n' ∉ ", terms: ".toList by decide)
  exact isReply_one (hlabel.append (newline_not_mem_toString x.termCount))

/-- The help is the only reply of two lines. -/
theorem OperatorSpelling.isReply_help {o : OperatorSpelling} (h : o = .russian ∨ o = .english) :
    IsReply 2 o.help := by
  have hlines {first : String} (hfirst : IsAnswerLine first) :
      ∀ l ∈ [first, "Commands: :stats, :rebuild, :help"], IsAnswerLine l := by
    simp only [List.mem_cons, List.not_mem_nil, or_false, forall_eq_or_imp, forall_eq]
    exact ⟨hfirst, by decide, 'C', by decide, by decide⟩
  rcases h with rfl | rfl
  · exact ⟨["И binds tighter than ИЛИ; ! negates the word it is attached to.", _], rfl,
      hlines ⟨by decide, 'И', by decide, by decide⟩, by decide +kernel⟩
  · exact ⟨["AND binds tighter than OR; ! negates the word it is attached to.", _], rfl,
      hlines ⟨by decide, 'A', by decide, by decide⟩, by decide +kernel⟩

namespace Session

variable {s : Session} {o : Nat → Outside} {st : SessionState} {line : String}

theorem isReply_rebuild (s : Session) (st : SessionState) : IsReply 1 (s.rebuild st).2 := by
  unfold rebuild
  split
  · exact isReply_one (a := "no corpus available, keeping old index")
      ⟨by decide, 'n', by decide, by decide⟩
  next x _ =>
    split
    · have hlead : IsAnswerLine "rebuilt index with " := ⟨by decide, 'r', by decide, by decide⟩
      have hnumber := hlead.append (newline_not_mem_toString x.index.documentCount)
      have hreply := isReply_one (hnumber.append (show '\n' ∉ " documents".toList by decide))
      rw [String.append_assoc] at hreply
      exact hreply
    · exact isReply_one (a := "rebuild interrupted, keeping old index")
        ⟨by decide, 'r', by decide, by decide⟩

/-- **Only the command `help` is answered on two lines**; whatever else a line of text asks for is
answered on one. -/
theorem isReply_answer (hspelling : s.reader.spelling = .russian ∨ s.reader.spelling = .english)
    (hsources : s.showSources = false) (st : SessionState) (hline : '\n' ∉ line.toList) :
    IsReply (if SessionLine.ofText line = .command "help" then 2 else 1)
      (s.answer st (.ofText line)).2 := by
  by_cases hhelp : SessionLine.ofText line = .command "help"
  · rw [if_pos hhelp, hhelp]
    exact OperatorSpelling.isReply_help hspelling
  · have hname {name : String} (h : SessionLine.ofText line = .command name) : '\n' ∉ name.toList :=
      SessionLine.newline_not_mem_of_command hline h
    rw [if_neg hhelp]
    generalize SessionLine.ofText line = l at hhelp hname
    unfold answer
    split
    next text =>
      rw [hsources]
      exact st.index.isReply_answerText s.reader text
    next => exact st.index.isReply_statisticsText
    next => exact s.isReply_rebuild st
    next => exact absurd rfl hhelp
    next name _ _ _ =>
      have hlead : IsAnswerLine "error: unknown command :" :=
        ⟨by decide, 'e', by decide, by decide⟩
      exact isReply_one (hlead.append (hname rfl))

/-! ### Outputs -/

/-- The output of a session on a text, as one who reads it can rely on it. -/
structure Framed (s : Session) (o : Nat → Outside) (st : SessionState) (text : String) : Prop where
  /-- The session comes to the end of the text. Its output is a prompt, and then for each line the
  answer and a prompt. -/
  transcript : s.runUnder o st (octetsOf text) =
    ⟨s.stateBefore o st (textLines text) (textLines text).length,
      s.reader.spelling.prompt ++
        String.join ((s.answers o st (textLines text)).map (· ++ s.reader.spelling.prompt)), true⟩
  /-- There are as many answers as lines. -/
  length_answers : (s.answers o st (textLines text)).length = (textLines text).length
  /-- A prompt is one line. -/
  prompt : IsLines 1 s.reader.spelling.prompt ∧
    textLines s.reader.spelling.prompt = [s.reader.spelling.promptLine]
  /-- Every answer is one line, except that to the command `help`, which is two. No line of an answer
  begins as a prompt does. -/
  answered : ∀ (k : Nat) (line : String), (textLines text)[k]? = some line →
    ∃ a, (s.answers o st (textLines text))[k]? = some a ∧
      IsLines (if SessionLine.ofText line = .command "help" then 2 else 1) a ∧
      ∀ l ∈ textLines a, ¬ s.reader.spelling.promptLine.toList <+: l.toList
  /-- A query is answered by the documents that it finds, or by the reason why it is rejected. -/
  queried : ∀ (k : Nat) (line query : String), (textLines text)[k]? = some line →
    SessionLine.ofText line = .query query →
      (s.answers o st (textLines text))[k]? =
        match (s.stateBefore o st (textLines text) k).index.search s.reader query with
        | .ok ids => some (listIds ids ++ "\n")
        | .error e => some ("error: malformed query: " ++ e.message ++ "\n")
  /-- The answers are what stands between the prompts. -/
  recovered : answersIn s.reader.spelling.promptLine (s.runUnder o st (octetsOf text)).output =
    s.answers o st (textLines text)

/-- **The answers of a session can be matched to its lines**, whatever the lines are and whatever
happens from outside; and if nothing changes from outside, the runs of which that is said are those
of `run`. -/
theorem session_output_framed (s : Session)
    (hspelling : s.reader.spelling = .russian ∨ s.reader.spelling = .english)
    (hsources : s.showSources = false) (o : Nat → Outside) (st : SessionState) (text : String) :
    s.Framed o st text ∧ ∀ input, s.runUnder (fun _ ↦ s.outside) st input = s.run st input := by
  have hprompt := OperatorSpelling.newline_not_mem_promptLine hspelling
  have hletter := OperatorSpelling.head?_promptLine hspelling
  have htranscript := s.runUnder_octetsOf o st text
  rw [blocks_eq] at htranscript
  have hreply {k : Nat} {line : String} (h : (textLines text)[k]? = some line) :=
    (s.under (o k)).isReply_answer hspelling hsources (s.stateBefore o st (textLines text) k)
      (newline_not_mem_of_mem_textLines (List.mem_of_getElem? h))
  refine ⟨⟨htranscript, List.length_mapIdx, ⟨?_, ?_⟩, fun k line hline ↦ ?_,
    fun k line query hline hquery ↦ ?_, ?_⟩, s.runUnder_outside st⟩
  · rw [OperatorSpelling.prompt_eq]
    exact isLines_one hprompt
  · rw [OperatorSpelling.prompt_eq]
    exact textLines_line hprompt
  · exact ⟨_, s.getElem?_answers o st hline, (hreply hline).isLines,
      fun l hl ↦ (hreply hline).not_isPrefix_of hletter hl⟩
  · rw [s.getElem?_answers o st hline, hquery]
    show some ((s.stateBefore o st (textLines text) k).index.answerText s.reader s.showSources
      query) = _
    rw [hsources, Index.answerText]
    cases (s.stateBefore o st (textLines text) k).index.search s.reader query <;> rfl
  · rw [htranscript, OperatorSpelling.prompt_eq]
    refine answersIn_eq hprompt fun a ha ↦ ?_
    rw [answers] at ha
    obtain ⟨k, hk, rfl⟩ := List.exists_of_mem_mapIdx ha
    have hline := hreply (List.getElem?_eq_getElem hk)
    exact ⟨hline.isLines.joinLines_textLines, fun hmem ↦
      hline.not_isPrefix_of hletter hmem (List.prefix_refl _)⟩

/-- A query in which a control character stands between quotation marks, four commands, one of them
unknown and spelled like a prompt, and a query that finds the page. -/
def questions : String :=
  "\"\x07\"\n:rebuild\n:help\n:rebuild\n: Enter a boolean query\nкот\n"

/-- The first rebuild is completed and the second is interrupted. All answers can be read off the
output. -/
theorem session_output_framed_of_questions :
    (visitor.reader.spelling = .russian ∨ visitor.reader.spelling = .english) ∧
      visitor.showSources = false ∧
      answersIn visitor.reader.spelling.promptLine
          (visitor.runUnder troubles arrival (octetsOf questions)).output =
        ["error: malformed query: \"\\\"\\u\x7b7\x7d\\\"\" contains no searchable letters\n",
          "rebuilt index with 1 documents\n",
          "И binds tighter than ИЛИ; ! negates the word it is attached to.\n" ++
            "Commands: :stats, :rebuild, :help\n",
          "rebuild interrupted, keeping old index\n",
          "error: unknown command :Enter a boolean query\n", "[1]\n"] := by
  have hspelling : visitor.reader.spelling = .russian ∨ visitor.reader.spelling = .english := .inl rfl
  have hframed := (session_output_framed visitor hspelling rfl troubles arrival questions).1
  refine ⟨hspelling, rfl, hframed.recovered.trans ?_⟩
  decide +kernel

end Session

end Concordance
