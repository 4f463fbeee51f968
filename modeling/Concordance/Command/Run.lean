import Concordance.Command.Directories
import Concordance.Command.Request
import Concordance.Session

/-!
# Running a command line

The outcome of a command line is the volume after it, what is written to the two outputs, and an exit
code: 0 for success and for help, 1 for a problem, 2 for arguments that cannot be understood. Answers
go to the output; notices and problems go to the diagnostics.

Every task but the making of completions first makes the data directory as far as it is missing. The
texts of help, of usage errors and of completions are not part of this library, and are empty here.
-/

namespace Concordance

/-- What came of a command line. -/
structure Outcome where
  /-- The files. -/
  volume : Volume
  /-- The exit code. -/
  code : Nat
  /-- The output. -/
  output : String
  /-- The diagnostics. -/
  diagnostics : String
  deriving DecidableEq

namespace Outcome

/-- A task that went well. -/
def success (v : Volume) (output diagnostics : String) : Outcome := ⟨v, 0, output, diagnostics⟩

/-- A problem, after some output. -/
def failure (v : Volume) (output : String) (p : Problem) : Outcome :=
  ⟨v, 1, output, "Error: " ++ p.record ++ "\n"⟩

end Outcome

/-- A request and where its directories are. -/
structure Assignment where
  /-- The request. -/
  request : Request
  /-- The data directory. -/
  dataDirectory : Path
  /-- The directory of the corpus. -/
  corpus : Path
  deriving DecidableEq, Repr

namespace Assignment

/-- The cache. -/
def cache (a : Assignment) : Path := a.dataDirectory.cacheIn

/-- Where indexes come from. Nobody interrupts a survey on the command line. -/
def supply (a : Assignment) : Supply where
  corpus := a.corpus
  cache := a.cache
  settings := a.request.settings
  interrupt := .never
  mishap := none

/-- The session of the task `repl`. -/
def session (a : Assignment) (showUrls : Bool) : Session where
  reader := a.request.reader
  supply := a.supply
  showSources := showUrls

/-- The state in which a session begins. -/
def opening (a : Assignment) (v : Volume) : SessionState :=
  let (v, x) := a.supply.provide v
  ⟨v, x.index⟩

/-- Answer the lines of the input. -/
def repl (a : Assignment) (v : Volume) (showUrls : Bool) (input : Octets) : Outcome :=
  let t := (a.session showUrls).run (a.opening v) input
  if t.isText then .success t.state.volume t.output ""
  else .failure t.state.volume t.output .inputNotText

/-- The notices on how an index came about. -/
def notices (a : Assignment) : Origin → String
  | .cache => "Index cache is up to date: " ++ a.cache.text ++ "\n"
  | .survey report =>
    String.join (report.failures.map fun f ↦ "  Skipped " ++ f.text ++ "\n")
      ++ "Indexed " ++ toString report.indexed ++ " documents ("
      ++ toString report.failures.length ++ " skipped)\n"
  | .unavailable => "No corpus found at " ++ a.corpus.text ++ "; nothing to index.\n"

/-- Provide an index. -/
def build (a : Assignment) (v : Volume) (force : Bool) : Outcome :=
  let (v, x) : Volume × Supplied :=
    if force then ((a.supply.rebuild v).1, .ofSurvey (a.supply.rebuild v).2)
    else a.supply.provide v
  .success v "" <|
    a.notices x.origin ++ toString x.index.termCount ++ " terms, "
      ++ toString x.index.documentCount ++ " documents\n"

/-- Answer one query. -/
def search (a : Assignment) (v : Volume) (query : String) (showUrls json : Bool) : Outcome :=
  let (v, x) := a.supply.provide v
  match x.index.search a.request.reader query with
  | .error e => .failure v "" (.query e)
  | .ok ids =>
    let text :=
      if json then x.index.listAsJson query ids ++ "\n"
      else if showUrls then x.index.listWithSources ids
      else listIds ids ++ "\n"
    .success v text ""

/-- What there is to say about the cache. -/
structure Status where
  /-- The length of the cache, if there is one. -/
  length? : Option Nat
  /-- The index in the cache, if it can be used. -/
  index? : Option Index
  /-- Is the directory of the corpus there? -/
  hasCorpus : Bool
  deriving DecidableEq

namespace Status

/-- The number of terms. -/
def terms (s : Status) : Nat := s.index?.elim 0 Index.termCount

/-- The number of documents. -/
def documents (s : Status) : Nat := s.index?.elim 0 Index.documentCount

end Status

/-- What there is to say about the cache on a volume. -/
def statusOn (a : Assignment) (v : Volume) : Status where
  length? := v.cacheLength? a.cache
  index? := v.loadCache? a.cache a.request.settings
  hasCorpus := v.isDirectory a.corpus

/-- The status as a JSON value. -/
def statusJson (a : Assignment) (s : Status) : Json Nat String :=
  .object
    [("alphabet", .text a.request.alphabet.name), ("cache", .text a.cache.text),
      ("cache_bytes", s.length?.elim .null .number), ("cache_valid", .bool s.index?.isSome),
      ("corpus_dir", .text a.corpus.text), ("data_dir", .text a.dataDirectory.text),
      ("documents", .number s.documents), ("strip_markup", .bool a.request.html),
      ("terms", .number s.terms)]

/-- The title of an alphabet. -/
def title : Alphabet → String
  | .cyrillic => "Cyrillic"
  | .latin => "Latin"

/-- The line on the cache. -/
def cacheLine (a : Assignment) (s : Status) : String :=
  "Index cache: " ++
    (match s.length?, s.index? with
      | none, _ => "none"
      | some n, some _ => a.cache.text ++ " (" ++ toString n ++ " bytes)"
      | some _, none => a.cache.text ++ " (unusable with these settings)") ++ "\n"

/-- The status in lines. -/
def statusText (a : Assignment) (s : Status) : String :=
  "Data directory: " ++ a.dataDirectory.text ++ "\n"
    ++ "Corpus: " ++ a.corpus.text ++ (if s.hasCorpus then "" else " (missing)") ++ "\n"
    ++ "Tokenizer: " ++ title a.request.alphabet
    ++ (if a.request.html then ", markup stripped" else "") ++ "\n"
    ++ a.cacheLine s
    ++ "Terms: " ++ toString s.terms ++ "\n"
    ++ "Documents: " ++ toString s.documents ++ "\n"

/-- Describe the cache. -/
def status (a : Assignment) (v : Volume) (json : Bool) : Outcome :=
  let s := a.statusOn v
  .success v (if json then (a.statusJson s).toText ++ "\n" else a.statusText s) ""

/-- Carry out the task. -/
def perform (a : Assignment) (v : Volume) (input : Octets) : Outcome :=
  match a.request.task with
  | .repl showUrls => a.repl v showUrls input
  | .build force => a.build v force
  | .search query showUrls json => a.search v query showUrls json
  | .status json => a.status v json
  | .completions _ => .success v "" ""

end Assignment

namespace Volume

/-- Carry out a request. -/
def carryOut (v : Volume) (e : Environment) (r : Request) (input : Octets) : Outcome :=
  match r.task with
  | .completions _ => .success v "" ""
  | _ =>
    match v.prepareData e r.dataDirectory? with
    | (v, .error p) => .failure v "" p
    | (v, .ok directory) => Assignment.perform ⟨r, directory, e.corpus r.corpus?⟩ v input

/-- Run a command line. -/
def runCommand (v : Volume) (e : Environment) (arguments : List String) (input : Octets) :
    Outcome :=
  match Request.read arguments with
  | .error .help => .success v "" ""
  | .error .misuse => ⟨v, 2, "", ""⟩
  | .ok r => v.carryOut e r input

end Volume

end Concordance
