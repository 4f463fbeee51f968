import Concordance.Corpus.Manifest
import Concordance.Index.Basic
import Concordance.Settings

/-!
# Surveys of a corpus

A survey reads every document of a corpus into an index and reports what it could not read. It never
fails: a document that cannot be read is passed over. It may be interrupted; documents that are
reached after that are skipped, and a survey that skipped a document is incomplete.

What was read so far is a *tally*. Tallies of different parts of a corpus can be merged, so a survey
may be divided among workers; the order of the report's failures is fixed at the end and does not
show the division.
-/

namespace Concordance

/-- What an observer of a survey is told. -/
inductive ProgressEvent where
  /-- The survey begins; the corpus has this many entries. -/
  | start (total : Nat)
  /-- An entry was dealt with. -/
  | advance
  /-- The survey ends. -/
  | finish
  deriving DecidableEq, Repr

/-- When a survey is interrupted. Whoever interrupts it goes by what observers have been told. -/
structure Interrupt where
  /-- Is the survey interrupted once observers have been told this much? -/
  isRaised : List ProgressEvent → Bool

namespace Interrupt

/-- No interruption. -/
def never : Interrupt := ⟨fun _ ↦ false⟩

/-- An interruption before the survey begins. -/
def always : Interrupt := ⟨fun _ ↦ true⟩

/-- An interruption as soon as `n` entries have been dealt with. -/
def after (n : Nat) : Interrupt := ⟨fun told ↦ decide (n ≤ told.count .advance)⟩

end Interrupt

/-- What has been read of a corpus so far. -/
structure Tally where
  /-- The index of the documents that were read. -/
  index : Index
  /-- The number of documents that were read. -/
  indexed : Nat
  /-- The number of documents that were skipped after an interruption. -/
  skipped : Nat
  /-- The documents that could not be read. -/
  failures : List Failure
  deriving DecidableEq

namespace Tally

/-- The tally before the first document. -/
def empty : Tally := ⟨∅, 0, 0, []⟩

/-- The tally of two parts of a corpus. -/
def merge (a b : Tally) : Tally where
  index := a.index.merge b.index
  indexed := a.indexed + b.indexed
  skipped := a.skipped + b.skipped
  failures := a.failures ++ b.failures

/-- The tally after skipping a document. -/
def skip (t : Tally) : Tally :=
  { t with skipped := t.skipped + 1 }

/-- The tally after reading the document of an entry. -/
def read (v : Volume) (s : Settings) (t : Tally) (e : Entry) : Tally :=
  match v.textAt e.path with
  | .ok text =>
    { t with
      index := (t.index.add e.id (s.terms text)).setSource e.id e.url
      indexed := t.indexed + 1 }
  | .error fault => { t with failures := t.failures ++ [⟨some e.id, e.path, .unreadable fault⟩] }

/-- The tally after an entry, which is skipped if the survey has been interrupted. -/
def record (v : Volume) (s : Settings) (raised : Bool) (t : Tally) (e : Entry) : Tally :=
  if raised then t.skip else t.read v s e

end Tally

/-- Does the first failure come before the second in a report, or are they alike? Failures without a
document come first, then those of each document in ascending order; failures of one document are
ordered by path and text. -/
def Failure.isOrdered (a b : Failure) : Bool :=
  match a.id?, b.id? with
  | none, some _ => true
  | some _, none => false
  | none, none => byText
  | some i, some j => decide (i < j) || (i = j && byText)
where
  /-- The order by path and text. -/
  byText : Bool :=
    decide (a.path.text < b.path.text) ||
      (a.path.text = b.path.text && !decide (b.cause.message < a.cause.message))

/-- What happened during a survey. -/
structure Report where
  /-- The number of documents that were read. -/
  indexed : Nat
  /-- The documents and lines that were passed over, in order. -/
  failures : List Failure
  /-- Was a document skipped? -/
  cancelled : Bool
  deriving DecidableEq

/-- Does the index hold all that could be read? -/
def Report.isComplete (r : Report) : Bool := !r.cancelled

/-- The outcome of a survey. -/
structure Survey where
  /-- The index of the documents that were read. -/
  index : Index
  /-- What happened. -/
  report : Report
  /-- What an observer was told. -/
  progress : List ProgressEvent
  deriving DecidableEq

namespace Corpus

/-- A survey under way, after one more entry: its tally and what observers have been told. -/
def surveyEntry (v : Volume) (s : Settings) (i : Interrupt) (r : Tally × List ProgressEvent)
    (e : Entry) : Tally × List ProgressEvent :=
  (r.1.record v s (i.isRaised r.2) e, r.2 ++ [.advance])

/-- The survey after all entries, in the order of the manifest. -/
def surveyEntries (c : Corpus) (v : Volume) (s : Settings) (i : Interrupt) :
    Tally × List ProgressEvent :=
  c.entries.foldl (surveyEntry v s i) (.empty, [.start c.entries.length])

/-- The report on a tally of all entries. -/
def reportOn (c : Corpus) (t : Tally) : Report where
  indexed := t.indexed
  failures := (c.failures ++ t.failures).mergeSort Failure.isOrdered
  cancelled := 0 < t.skipped

/-- The survey of a corpus on a volume. -/
def survey (c : Corpus) (v : Volume) (s : Settings) (i : Interrupt) : Survey :=
  let (t, told) := c.surveyEntries v s i
  ⟨t.index, c.reportOn t, told ++ [.finish]⟩

end Corpus

end Concordance
