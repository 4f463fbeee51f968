import Concordance.Command.Arguments
import Concordance.Query.Piece
import Concordance.Settings

/-!
# Requests

What a command line asks for, once its arguments have been read: a task with its particulars, and the
particulars that every task shares. Without the name of a task, queries are answered line by line.
-/

namespace Concordance

/-- A task with its particulars. -/
inductive Task where
  /-- Answer the lines of the input. -/
  | repl (showUrls : Bool)
  /-- Provide an index; with `force` from the corpus, whatever is in the cache. -/
  | build (force : Bool)
  /-- Answer one query. -/
  | search (query : String) (showUrls json : Bool)
  /-- Describe the cache. -/
  | status (json : Bool)
  /-- Make completions for a shell. -/
  | completions (shell : String)
  deriving DecidableEq, Repr

/-- What a command line asks for. -/
structure Request where
  /-- The data directory, where it is chosen. -/
  dataDirectory? : Option Path
  /-- The directory of the corpus, where it is chosen. -/
  corpus? : Option Path
  /-- The alphabet of the terms. -/
  alphabet : Alphabet
  /-- Are documents sources of pages? -/
  html : Bool
  /-- Are the operators of queries spelled in English? -/
  englishOperators : Bool
  /-- The task. -/
  task : Task
  deriving DecidableEq, Repr

namespace Request

/-- The settings under which documents are read. -/
def settings (r : Request) : Settings := ⟨r.alphabet, r.html⟩

/-- How queries are read. -/
def reader (r : Request) : QueryReader :=
  ⟨if r.englishOperators then .english else .russian, r.alphabet⟩

/-- The task that a level asks for. -/
def taskOf (l : Level) : Option Task :=
  let isOn (s : Switch) := decide (s ∈ l.switches)
  match l.task, l.operands with
  | some .repl, _ => some (.repl (isOn .showUrls))
  | some .build, _ => some (.build (isOn .force))
  | some .search, [query] => some (.search query (isOn .showUrls) (isOn .json))
  | some .status, _ => some (.status (isOn .json))
  | some .completions, [shell] => some (.completions shell)
  | _, _ => none

/-- The request of both levels. -/
def ofLevels (outer inner : Level) (t : Task) : Request :=
  let chosen (c : Choice) := (inner.choices.lookup c).or (outer.choices.lookup c)
  let isOn (s : Switch) := decide (s ∈ inner.switches ++ outer.switches)
  { dataDirectory? := (chosen .dataDirectory).map .mk
    corpus? := (chosen .corpus).map .mk
    alphabet := ((chosen .alphabet).bind Alphabet.named?).getD .cyrillic
    html := isOn .html
    englishOperators := isOn .englishOperators
    task := t }

/-- The request that arguments make. -/
def read (arguments : List String) : Except Stop Request := do
  let (outer, inner) ← (Level.start none).readBoth arguments
  let inner := inner.getD (.start (some .repl))
  match taskOf inner with
  | some t => return ofLevels outer inner t
  | none => throw .misuse

end Request

end Concordance
