import Concordance.Cache.Storage
import Concordance.Corpus.Survey

/-!
# Supply of indexes

An index is taken from the cache where that can be used, and otherwise from a survey of the corpus,
whose outcome is then cached. The cache never changes what is supplied, only what it costs: a survey
that was interrupted is not cached, and a cache that cannot be saved is no reason to fail.

Without a corpus there is nothing to survey. The index supplied is then empty, and the cache, which
may be that of a corpus that will come back, is left alone.
-/

namespace Concordance

/-- Where indexes come from. -/
structure Supply where
  /-- The directory of the corpus. -/
  corpus : Path
  /-- The cache. -/
  cache : Path
  /-- The settings under which documents are read. -/
  settings : Settings
  /-- When a survey is interrupted. -/
  interrupt : Interrupt
  /-- What goes wrong while the cache is saved, if anything does. -/
  mishap : Option Mishap

/-- How an index came about. -/
inductive Origin where
  /-- It was in the cache. -/
  | cache
  /-- It is the outcome of a survey with this report. -/
  | survey (report : Report)
  /-- There was no corpus that could have been surveyed. -/
  | unavailable
  deriving DecidableEq

/-- An index and how it came about. -/
structure Supplied where
  /-- The index. -/
  index : Index
  /-- How it came about. -/
  origin : Origin
  deriving DecidableEq

/-- What a survey supplies, or its absence. -/
def Supplied.ofSurvey : Option Survey → Supplied
  | none => ⟨∅, .unavailable⟩
  | some x => ⟨x.index, .survey x.report⟩

namespace Supply

/-- The survey of the corpus as it is now, if there is one. -/
def survey? (s : Supply) (v : Volume) : Option Survey :=
  (v.corpus? s.corpus).map fun c ↦ c.survey v s.settings s.interrupt

/-- The volume after caching the outcome of a survey, which happens only if it is complete. -/
def keep (s : Supply) (v : Volume) (x : Survey) : Volume :=
  if x.report.isComplete then (v.saveCache x.index s.settings s.cache s.mishap).1 else v

/-- Survey the corpus, whatever is in the cache, and keep the outcome. -/
def rebuild (s : Supply) (v : Volume) : Volume × Option Survey :=
  match s.survey? v with
  | none => (v, none)
  | some x => (s.keep v x, some x)

/-- Supply an index from the cache, or else from a survey. -/
def provide (s : Supply) (v : Volume) : Volume × Supplied :=
  match v.loadCache? s.cache s.settings with
  | some x => (v, ⟨x, .cache⟩)
  | none => ((s.rebuild v).1, .ofSurvey (s.rebuild v).2)

end Supply

end Concordance
