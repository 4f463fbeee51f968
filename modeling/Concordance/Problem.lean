import Concordance.Query.Fault
import Concordance.Volume.Fault
import Concordance.Volume.Path

/-!
# Problems

Why something that was asked for cannot be done. A problem has two written forms: a message for
someone who works with the program, and a record of the cause and its parts, which the command line
prints when it gives up.
-/

namespace Concordance

/-- Why something cannot be done. -/
inductive Problem where
  /-- The query is rejected. -/
  | query (fault : QueryFault)
  /-- The input is not text. -/
  | inputNotText
  /-- There is no manifest that can be read at this path. -/
  | noManifest (manifest : Path)
  /-- The cache at this path cannot be saved. -/
  | cacheNotSaved (cache : Path) (fault : FileFault)
  /-- The data directory cannot be made. -/
  | noDataDirectory (path : Path)
  /-- Nothing says where the data directory should be. -/
  | unknownDataDirectory
  deriving DecidableEq, Repr

namespace Problem

/-- The message for someone who works with the program. -/
def message : Problem → String
  | query e => "malformed query: " ++ e.message
  | inputNotText => "I/O error: " ++ FileFault.notText.message
  | noManifest p => "no corpus manifest available at " ++ p.text
  | cacheNotSaved p e => "index cache error at " ++ p.text ++ ": I/O error: " ++ e.message
  | noDataDirectory p =>
    "data directory does not exist and could not be created: " ++ p.text
  | unknownDataDirectory =>
    "configuration error: could not determine XDG data home directory"

/-- The record of a problem: its cause and the parts of it. -/
def record : Problem → String
  | query e => "MalformedQuery(" ++ e.record ++ ")"
  | inputNotText => "Io(" ++ FileFault.notText.record ++ ")"
  | noManifest p => "IndexUnavailable(" ++ quoted p.text ++ ")"
  | cacheNotSaved p e =>
    "Persistence \x7b path: " ++ quoted p.text ++ ", source: Io(" ++ e.record ++ ") \x7d"
  | noDataDirectory p => "DataDir(" ++ quoted p.text ++ ")"
  | unknownDataDirectory =>
    "Config(" ++ quoted "could not determine XDG data home directory" ++ ")"

end Problem

end Concordance
