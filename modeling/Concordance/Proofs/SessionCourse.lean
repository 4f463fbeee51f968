import Concordance.Proofs.Supply
import Concordance.Proofs.TextLines
import Concordance.Session

/-!
# The course of a session

A session goes on from line to line, and what a line finds is the state that the line before it left.
Two sessions in a row are therefore one session on both inputs, as long as the first ends with a line
break (`joins_runUnder`).

Only one thing changes the state: a *completed rebuild*, which is the command `rebuild` at a moment
when there is a corpus and no entry of it is skipped. It publishes the index of a fresh survey, even
if the cache cannot be saved. Every other line leaves the state as it was (`answer_of_not_completes`).
So the current index is always that of the last completed rebuild, or the one that the session began
with (`isCurrent_index`).

Surveys may be interrupted, and saving may fail, at some lines and not at others. What happens from
outside is therefore given for each line; a session under unchanging circumstances is the special
case `runUnder_outside`.
-/

namespace Concordance

/-- What happens from outside while a line of a session is answered. -/
structure Outside where
  /-- When a survey is interrupted. -/
  interrupt : Interrupt
  /-- What goes wrong while the cache is saved, if anything does. -/
  mishap : Option Mishap

namespace Session

variable {s : Session} {o : Nat → Outside} {st : SessionState} {line text : String}

/-! ### Single lines -/

/-- A line that is the command `rebuild`, on a volume with a corpus of which no entry is skipped. -/
def Completes (s : Session) (v : Volume) (line : String) : Prop :=
  SessionLine.ofText line = .command "rebuild" ∧
    ∃ c, v.corpus? s.supply.corpus = some c ∧
      ∀ x ∈ c.visits s.supply.interrupt, x.isSkipped = false

/-- Only a rebuild can change the state of a session. -/
theorem fst_answer_of_ne {l : SessionLine} (h : l ≠ .command "rebuild") :
    (s.answer st l).1 = st := by
  unfold answer
  split
  · rfl
  · rfl
  · exact absurd rfl h
  · rfl
  · rfl

/-- **Every line but a completed rebuild leaves the state as it was.** -/
theorem answer_of_not_completes (h : ¬ s.Completes st.volume line) :
    (s.answer st (.ofText line)).1 = st := by
  by_cases hline : SessionLine.ofText line = .command "rebuild"
  · rw [hline]
    show (s.rebuild st).1 = st
    rw [rebuild, Supply.rebuild, Supply.survey?]
    cases hc : st.volume.corpus? s.supply.corpus with
    | none => rfl
    | some c =>
      have hincomplete : (c.survey st.volume s.supply.settings
          s.supply.interrupt).report.isComplete = false := by
        rw [← Bool.not_eq_true, Corpus.report_survey, Corpus.isComplete_iff]
        exact fun hall ↦ h ⟨hline, c, hc, hall⟩
      simp only [Option.map_some, Supply.keep, hincomplete, Bool.false_eq_true, if_false]
  · exact fst_answer_of_ne hline

/-- **A completed rebuild publishes the index of a fresh survey**, whether or not the cache can be
saved. -/
theorem answer_of_completes (h : s.Completes st.volume line) :
    (s.answer st (.ofText line)).1.index =
      st.volume.freshIndex s.supply.corpus s.supply.settings := by
  obtain ⟨hline, c, hc, hall⟩ := h
  have hcomplete : (c.survey st.volume s.supply.settings
      s.supply.interrupt).report.isComplete = true := by
    rw [Corpus.report_survey, Corpus.isComplete_iff]
    exact hall
  rw [hline]
  show (s.rebuild st).1.index = _
  rw [rebuild, Supply.rebuild, Supply.survey?, hc]
  simp only [Option.map_some, hcomplete, if_true]
  rw [Corpus.index_of_isComplete hcomplete, Volume.freshIndex_eq hc]

/-! ### Runs under changing circumstances -/

/-- The session when this happens from outside. -/
def under (s : Session) (o : Outside) : Session :=
  { s with supply := { s.supply with interrupt := o.interrupt, mishap := o.mishap } }

/-- What happens from outside if nothing changes. -/
def outside (s : Session) : Outside := ⟨s.supply.interrupt, s.supply.mishap⟩

@[simp] theorem under_outside (s : Session) : s.under s.outside = s := rfl

/-- The session on the given lines, after its first prompt, when `o k` happens at line `k`. -/
def answerLinesUnder (s : Session) (o : Nat → Outside) (st : SessionState) :
    List Octets → Transcript
  | [] => ⟨st, "", true⟩
  | line :: rest =>
    match textOf? line with
    | none => ⟨st, "", false⟩
    | some text =>
      let (st, a) := (s.under (o 0)).answer st (.ofText text)
      let t := s.answerLinesUnder (fun k ↦ o (k + 1)) st rest
      { t with output := a ++ s.reader.spelling.prompt ++ t.output }

/-- The session on the given input, when `o k` happens at line `k`. -/
def runUnder (s : Session) (o : Nat → Outside) (st : SessionState) (input : Octets) : Transcript :=
  let t := s.answerLinesUnder o st (lines (· = 0x0a) input)
  { t with output := s.reader.spelling.prompt ++ t.output }

theorem answerLinesUnder_outside (s : Session) (st : SessionState) (ls : List Octets) :
    s.answerLinesUnder (fun _ ↦ s.outside) st ls = s.answerLines st ls := by
  induction ls generalizing st with
  | nil => rfl
  | cons line ls ih =>
    rw [answerLinesUnder, answerLines]
    cases textOf? line with
    | none => rfl
    | some text => simp only [under_outside, ih]

/-- **A session is a run under unchanging circumstances.** -/
theorem runUnder_outside (s : Session) (st : SessionState) (input : Octets) :
    s.runUnder (fun _ ↦ s.outside) st input = s.run st input := by
  rw [runUnder, run, answerLinesUnder_outside]

/-- **A run on two lists of lines is a run on the first followed by one on the second**, as long as
the first are text. -/
theorem answerLinesUnder_append {a : List Octets} (h : (s.answerLinesUnder o st a).isText = true)
    (b : List Octets) :
    s.answerLinesUnder o st (a ++ b) =
      let t := s.answerLinesUnder o st a
      let u := s.answerLinesUnder (fun k ↦ o (k + a.length)) t.state b
      { u with output := t.output ++ u.output } := by
  induction a generalizing o st with
  | nil => simp [answerLinesUnder]
  | cons line a ih =>
    unfold answerLinesUnder at h
    cases hline : textOf? line with
    | none => simp [hline] at h
    | some text =>
      rw [hline] at h
      simp [answerLinesUnder, hline, ih h, String.append_assoc, Nat.add_assoc]

/-! ### The state before a line -/

/-- The state in which a session on the given lines finds the line `k`. -/
def stateBefore (s : Session) (o : Nat → Outside) (st : SessionState) (ls : List String) :
    Nat → SessionState
  | 0 => st
  | k + 1 =>
    match ls[k]? with
    | none => s.stateBefore o st ls k
    | some line => ((s.under (o k)).answer (s.stateBefore o st ls k) (.ofText line)).1

/-- Does the line `k` complete a rebuild? -/
def CompletesAt (s : Session) (o : Nat → Outside) (st : SessionState) (ls : List String)
    (k : Nat) : Prop :=
  ∃ line, ls[k]? = some line ∧ (s.under (o k)).Completes (s.stateBefore o st ls k).volume line

/-- The index of a fresh survey at the time of the line `k`. -/
def freshAt (s : Session) (o : Nat → Outside) (st : SessionState) (ls : List String) (k : Nat) :
    Index :=
  (s.stateBefore o st ls k).volume.freshIndex s.supply.corpus s.supply.settings

/-- At the time of the line `k`, this is the index of the last completed rebuild, or the index that
the session began with if there was none. -/
def IsCurrent (s : Session) (o : Nat → Outside) (st : SessionState) (ls : List String) (k : Nat)
    (x : Index) : Prop :=
  ((∀ j < k, ¬ s.CompletesAt o st ls j) ∧ x = st.index) ∨
    ∃ j < k, s.CompletesAt o st ls j ∧ (∀ i, j < i → i < k → ¬ s.CompletesAt o st ls i) ∧
      x = s.freshAt o st ls j

variable {ls : List String} {k : Nat}

theorem stateBefore_succ (h : ls[k]? = some line) :
    s.stateBefore o st ls (k + 1) =
      ((s.under (o k)).answer (s.stateBefore o st ls k) (.ofText line)).1 := by
  rw [stateBefore, h]

/-- **Only a completed rebuild changes the state.** -/
theorem stateBefore_succ_of_not_completesAt (h : ¬ s.CompletesAt o st ls k) :
    s.stateBefore o st ls (k + 1) = s.stateBefore o st ls k := by
  cases hline : ls[k]? with
  | none => rw [stateBefore, hline]
  | some line =>
    rw [stateBefore_succ hline]
    exact answer_of_not_completes fun hcompletes ↦ h ⟨line, hline, hcompletes⟩

/-- A completed rebuild makes the index of its survey the current one. -/
theorem index_stateBefore_succ_of_completesAt (h : s.CompletesAt o st ls k) :
    (s.stateBefore o st ls (k + 1)).index = s.freshAt o st ls k := by
  obtain ⟨line, hline, hcompletes⟩ := h
  rw [stateBefore_succ hline]
  exact answer_of_completes hcompletes

/-- **The index of a session is that of the last completed rebuild.** -/
theorem isCurrent_index (s : Session) (o : Nat → Outside) (st : SessionState) (ls : List String)
    (k : Nat) : s.IsCurrent o st ls k (s.stateBefore o st ls k).index := by
  induction k with
  | zero => exact .inl ⟨fun j hj ↦ absurd hj (Nat.not_lt_zero j), rfl⟩
  | succ k ih =>
    by_cases hk : s.CompletesAt o st ls k
    · refine .inr ⟨k, Nat.lt_succ_self k, hk, fun i hi hi' ↦ ?_,
        index_stateBefore_succ_of_completesAt hk⟩
      exact absurd hi' (by omega)
    · -- The line changes nothing, so what was current before it still is.
      have hlast {j : Nat} (hj : j < k + 1) : j < k ∨ j = k := by omega
      rw [stateBefore_succ_of_not_completesAt hk]
      rcases ih with ⟨hnone, hindex⟩ | ⟨j, hj, hcompletes, hnone, hindex⟩
      · refine .inl ⟨fun j hj ↦ ?_, hindex⟩
        rcases hlast hj with hj | rfl
        · exact hnone j hj
        · exact hk
      · refine .inr ⟨j, by omega, hcompletes, fun i hi hi' ↦ ?_, hindex⟩
        rcases hlast hi' with hi' | rfl
        · exact hnone i hi hi'
        · exact hk

/-! ### Transcripts -/

/-- Seen from the second line on, the circumstances begin one line later. -/
theorem stateBefore_cons (s : Session) (o : Nat → Outside) (st : SessionState) (line : String)
    (ls : List String) (k : Nat) :
    s.stateBefore o st (line :: ls) (k + 1) =
      s.stateBefore (fun k ↦ o (k + 1)) ((s.under (o 0)).answer st (.ofText line)).1 ls k := by
  induction k with
  | zero => rfl
  | succ k ih => rw [stateBefore, ih, stateBefore, List.getElem?_cons_succ]

/-- The answers to the lines, each with the prompt that follows it. -/
def blocks (s : Session) (o : Nat → Outside) (st : SessionState) (ls : List String) :
    List String :=
  ls.mapIdx fun k line ↦
    ((s.under (o k)).answer (s.stateBefore o st ls k) (.ofText line)).2 ++
      s.reader.spelling.prompt

theorem blocks_cons (s : Session) (o : Nat → Outside) (st : SessionState) (line : String)
    (ls : List String) :
    s.blocks o st (line :: ls) =
      (((s.under (o 0)).answer st (.ofText line)).2 ++ s.reader.spelling.prompt) ::
        s.blocks (fun k ↦ o (k + 1)) ((s.under (o 0)).answer st (.ofText line)).1 ls := by
  rw [blocks, List.mapIdx_cons, blocks]
  simp only [stateBefore_cons]
  rfl

/-- **What comes of a session on lines of text**: every line is answered in the state before it. -/
theorem answerLinesUnder_eq (s : Session) (o : Nat → Outside) (st : SessionState)
    (ls : List String) :
    s.answerLinesUnder o st (ls.map octetsOf) =
      ⟨s.stateBefore o st ls ls.length, String.join (s.blocks o st ls), true⟩ := by
  induction ls generalizing o st with
  | nil => rfl
  | cons line ls ih =>
    rw [List.map_cons, answerLinesUnder, textOf?_octetsOf, blocks_cons, List.length_cons,
      stateBefore_cons]
    simp only [ih]
    rw [String.join_cons]

/-- What comes of a session on a text. -/
theorem runUnder_octetsOf (s : Session) (o : Nat → Outside) (st : SessionState) (text : String) :
    s.runUnder o st (octetsOf text) =
      ⟨s.stateBefore o st (textLines text) (textLines text).length,
        s.reader.spelling.prompt ++ String.join (s.blocks o st (textLines text)), true⟩ := by
  rw [runUnder, lines_octetsOf, answerLinesUnder_eq]

/-- A text that is empty or ends with a line break. -/
def EndsLine (text : String) : Prop := text = "" ∨ text.toList.getLast? = some '\n'

instance (text : String) : Decidable (EndsLine text) :=
  inferInstanceAs (Decidable (text = "" ∨ text.toList.getLast? = some '\n'))

/-- Behind a line break, what follows begins a line of its own. -/
theorem lines_append_of_endsLine (h : EndsLine text) (b : Octets) :
    lines (· = 0x0a) (octetsOf text ++ b) =
      lines (· = 0x0a) (octetsOf text) ++ lines (· = 0x0a) b := by
  rcases h with rfl | h
  · rfl
  · obtain ⟨l, hl⟩ := List.getLast?_eq_some_iff.1 h
    have hoctets : octetsOf text = utf8 l ++ [0x0a] := by
      rw [octetsOf, hl, utf8_append, utf8_cons, utf8_nil, List.append_nil,
        utf8EncodeChar_ascii (by decide)]
      rfl
    rw [hoctets]
    exact lines_append rfl (utf8 l) b

/-! ### Courses -/

/-- The transcript `w` is what `t` and `u` come to in a row: it ends as `u` does, and its output is
that of both, without the prompt that the output of `u` begins with. -/
def Joins (prompt : String) (t u w : Transcript) : Prop :=
  ∃ rest, u.output = prompt ++ rest ∧ w = { u with output := t.output ++ rest }

/-- How a session goes on a text, when `o k` happens from outside at line `k`. -/
structure Course (s : Session) (o : Nat → Outside) (st : SessionState) (text : String) : Prop where
  /-- Every line is answered in the state before it, and a prompt stands before the first line and
  after each. The state at the end is that after the last line. -/
  transcript : s.runUnder o st (octetsOf text) =
    ⟨s.stateBefore o st (textLines text) (textLines text).length,
      s.reader.spelling.prompt ++ String.join (s.blocks o st (textLines text)), true⟩
  /-- If the text ends with a line break, a run on it and on more input is a run on the text
  followed by a run on the rest, which starts from the state that the first left. -/
  composes : EndsLine text → ∀ b : Octets,
    Joins s.reader.spelling.prompt (s.runUnder o st (octetsOf text))
      (s.runUnder (fun k ↦ o (k + (textLines text).length)) (s.runUnder o st (octetsOf text)).state b)
      (s.runUnder o st (octetsOf text ++ b))
  /-- A line that completes no rebuild leaves the index and the files as they were. -/
  unchanged : ∀ k, ¬ s.CompletesAt o st (textLines text) k →
    s.stateBefore o st (textLines text) (k + 1) = s.stateBefore o st (textLines text) k
  /-- A completed rebuild publishes the index of a fresh survey at that moment. -/
  published : ∀ k, s.CompletesAt o st (textLines text) k →
    (s.stateBefore o st (textLines text) (k + 1)).index = s.freshAt o st (textLines text) k
  /-- A query is answered from the index of the last completed rebuild before it, or from the index
  that the session began with if there was none. -/
  answered : ∀ k line query, (textLines text)[k]? = some line →
    SessionLine.ofText line = .query query →
      ∃ x, s.IsCurrent o st (textLines text) k x ∧
        ((s.under (o k)).answer (s.stateBefore o st (textLines text) k) (.ofText line)).2 =
          x.answerText s.reader s.showSources query

/-- **A run on two inputs is a run on the first followed by one on the second**, as long as the
first ends with a line break. -/
theorem joins_runUnder (h : EndsLine text) (b : Octets) :
    Joins s.reader.spelling.prompt (s.runUnder o st (octetsOf text))
      (s.runUnder (fun k ↦ o (k + (textLines text).length)) (s.runUnder o st (octetsOf text)).state b)
      (s.runUnder o st (octetsOf text ++ b)) := by
  have hisText : (s.answerLinesUnder o st (lines (· = 0x0a) (octetsOf text))).isText = true := by
    rw [lines_octetsOf, answerLinesUnder_eq]
  have hlength : (lines (· = 0x0a) (octetsOf text)).length = (textLines text).length := by
    rw [lines_octetsOf, List.length_map]
  refine ⟨_, rfl, ?_⟩
  simp only [runUnder, lines_append_of_endsLine h, answerLinesUnder_append hisText, hlength,
    String.append_assoc]

/-- **Sessions compose, and only a completed rebuild changes anything.** Whatever happens from
outside, a session on a text goes its `Course`; and if nothing changes from outside, the runs of
which that is said are those of `run`. -/
theorem session_course (s : Session) (o : Nat → Outside) (st : SessionState) (text : String) :
    s.Course o st text ∧
      ∀ input, s.runUnder (fun _ ↦ s.outside) st input = s.run st input := by
  refine ⟨⟨s.runUnder_octetsOf o st text, fun h b ↦ joins_runUnder h b,
    fun k h ↦ stateBefore_succ_of_not_completesAt h,
    fun k h ↦ index_stateBefore_succ_of_completesAt h, fun k line query _ hquery ↦ ?_⟩,
    s.runUnder_outside st⟩
  refine ⟨_, s.isCurrent_index o st (textLines text) k, ?_⟩
  rw [hquery]
  rfl

/-- A session over a corpus of one page. -/
def visitor : Session :=
  ⟨⟨.russian, .cyrillic⟩, ⟨⟨"Pages"⟩, ⟨"index.json"⟩, ⟨.cyrillic, false⟩, .never, none⟩, false⟩

/-- The page is there, and nothing is indexed yet. -/
def arrival : SessionState := ⟨Volume.onePage, ∅⟩

/-- At first the cache cannot be saved, and later surveys are interrupted. -/
def troubles : Nat → Outside
  | 0 | 1 => ⟨.never, some .renaming⟩
  | _ => ⟨.always, none⟩

/-- A text with a rejected query, and with two rebuilds of which only the first is completed. -/
def visit : String := "кот\n :rebuild\nИ\n:rebuild\nкот\n"

/-- The first rebuild publishes its index although the cache cannot be saved, and the second leaves
the state alone. A second session goes on from there. -/
theorem session_course_of_visit :
    (visitor.CompletesAt troubles arrival (textLines visit) 1 ∧
        (visitor.stateBefore troubles arrival (textLines visit) 2).index =
          visitor.freshAt troubles arrival (textLines visit) 1) ∧
      (¬ visitor.CompletesAt troubles arrival (textLines visit) 3 ∧
        visitor.stateBefore troubles arrival (textLines visit) 4 =
          visitor.stateBefore troubles arrival (textLines visit) 3) ∧
      Joins visitor.reader.spelling.prompt (visitor.runUnder troubles arrival (octetsOf visit))
        (visitor.runUnder (fun k ↦ troubles (k + (textLines visit).length))
          (visitor.runUnder troubles arrival (octetsOf visit)).state (octetsOf "!кот"))
        (visitor.runUnder troubles arrival (octetsOf visit ++ octetsOf "!кот")) := by
  have hcourse := (session_course visitor troubles arrival visit).1
  have hcompletes : visitor.CompletesAt troubles arrival (textLines visit) 1 :=
    ⟨" :rebuild", by decide +kernel, by decide +kernel,
      ⟨⟨"Pages"⟩, [⟨1, "a", ⟨"Pages/1.txt"⟩⟩], []⟩, by decide +kernel, by decide +kernel⟩
  have hskipped : ¬ visitor.CompletesAt troubles arrival (textLines visit) 3 := by
    rintro ⟨line, hline, -, c, hc, hall⟩
    have hcorpus : (visitor.stateBefore troubles arrival (textLines visit) 3).volume.corpus?
        ⟨"Pages"⟩ = some ⟨⟨"Pages"⟩, [⟨1, "a", ⟨"Pages/1.txt"⟩⟩], []⟩ := by decide +kernel
    obtain rfl := Option.some.inj (hcorpus.symm.trans hc)
    exact absurd hall (by decide +kernel)
  exact ⟨⟨hcompletes, hcourse.published 1 hcompletes⟩, ⟨hskipped, hcourse.unchanged 3 hskipped⟩,
    hcourse.composes (by decide +kernel) _⟩

end Session

end Concordance
