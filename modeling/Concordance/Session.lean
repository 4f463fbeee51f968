import Concordance.Index.Answer
import Concordance.Index.Listing
import Concordance.Supply

/-!
# Sessions

In a session, lines of input are answered one by one. A line is a query, or, if it begins with a
colon, a command; blanks around either do not count. Each answer ends its last line, and a prompt
follows it. A query that is rejected is answered with the reason and changes nothing.

Only the command `rebuild` changes anything: it replaces the index of the session by that of a
complete survey. If there is no corpus, or the survey is interrupted, the index stays.

The input is octets. A line that is not text cannot be answered and ends the session.
-/

namespace Concordance

/-- What a line of a session asks for. -/
inductive SessionLine where
  /-- A command, by its name. -/
  | command (name : String)
  /-- A query. -/
  | query (text : String)
  deriving DecidableEq, Repr

/-- What a line asks for. -/
def SessionLine.ofText (line : String) : SessionLine :=
  match trim line.toList with
  | ':' :: name => .command (String.ofList (trim name))
  | text => .query (String.ofList text)

/-- What a session can draw upon, apart from what changes in its course. -/
structure Session where
  /-- How queries are read. -/
  reader : QueryReader
  /-- Where a new index comes from. -/
  supply : Supply
  /-- Are the addresses of documents listed with the answers? -/
  showSources : Bool

/-- What changes in the course of a session. -/
structure SessionState where
  /-- The files. -/
  volume : Volume
  /-- The current index. -/
  index : Index
  deriving DecidableEq

/-- What came of a session. -/
structure Transcript where
  /-- The state at the end. -/
  state : SessionState
  /-- All output. -/
  output : String
  /-- Was every line text? Otherwise the session ended at the first line that was not. -/
  isText : Bool
  deriving DecidableEq

namespace OperatorSpelling

/-- The line that asks for a query. -/
def prompt (o : OperatorSpelling) : String :=
  "Enter a boolean query (e.g. word1 " ++ o.and ++ " word2 " ++ o.or ++ " " ++ String.singleton o.not
    ++ "word3):\n"

/-- The explanation of queries and commands. -/
def help (o : OperatorSpelling) : String :=
  o.and ++ " binds tighter than " ++ o.or ++ "; " ++ String.singleton o.not
    ++ " negates the word it is attached to.\nCommands: :stats, :rebuild, :help\n"

end OperatorSpelling

namespace Index

/-- The answer to a query, in full lines. -/
def answerText (x : Index) (r : QueryReader) (showSources : Bool) (query : String) : String :=
  match x.search r query with
  | .ok ids => if showSources then x.listWithSources ids else listIds ids ++ "\n"
  | .error e => "error: malformed query: " ++ e.message ++ "\n"

/-- The sizes of an index, as a line. -/
def statisticsText (x : Index) : String :=
  "documents: " ++ toString x.documentCount ++ ", terms: " ++ toString x.termCount ++ "\n"

end Index

namespace Session

/-- Replace the index by that of a complete survey, if there is one. -/
def rebuild (s : Session) (st : SessionState) : SessionState × String :=
  match s.supply.rebuild st.volume with
  | (v, none) => (⟨v, st.index⟩, "no corpus available, keeping old index\n")
  | (v, some x) =>
    if x.report.isComplete then
      (⟨v, x.index⟩, "rebuilt index with " ++ toString x.index.documentCount ++ " documents\n")
    else (⟨v, st.index⟩, "rebuild interrupted, keeping old index\n")

/-- The answer to what a line asks for, and the state after it. -/
def answer (s : Session) (st : SessionState) : SessionLine → SessionState × String
  | .query text => (st, st.index.answerText s.reader s.showSources text)
  | .command "stats" => (st, st.index.statisticsText)
  | .command "rebuild" => s.rebuild st
  | .command "help" => (st, s.reader.spelling.help)
  | .command name => (st, "error: unknown command :" ++ name ++ "\n")

/-- The session on the given lines, after its first prompt. -/
def answerLines (s : Session) (st : SessionState) : List Octets → Transcript
  | [] => ⟨st, "", true⟩
  | line :: rest =>
    match textOf? line with
    | none => ⟨st, "", false⟩
    | some text =>
      let (st, a) := s.answer st (.ofText text)
      let t := s.answerLines st rest
      { t with output := a ++ s.reader.spelling.prompt ++ t.output }

/-- The session on the given input. -/
def run (s : Session) (st : SessionState) (input : Octets) : Transcript :=
  let t := s.answerLines st (lines (· = 0x0a) input)
  { t with output := s.reader.spelling.prompt ++ t.output }

end Session

end Concordance
