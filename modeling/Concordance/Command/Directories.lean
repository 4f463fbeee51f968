import Concordance.Ordered.Map
import Concordance.Problem
import Concordance.Volume.Change

/-!
# Directories of the command line

The data directory, which holds the cache, and the directory of the corpus. Each is what the command
line chooses, or else what a variable of the environment says, or else a default. The default data
directory has a place of its own among the data of the user; a variable that should say where those
are counts only if it is an absolute path.
-/

namespace Concordance

/-- The variables of the environment. -/
abbrev Environment := SortedMap String String

namespace Environment

/-- Where the data of the user are. -/
def userData? (e : Environment) : Option Path :=
  match e.find? "XDG_DATA_HOME" with
  | some p =>
    if Path.isAbsolute ⟨p⟩ then some ⟨p⟩
    else fromHome
  | none => fromHome
where
  /-- Where the data of the user are by default. -/
  fromHome : Option Path := (e.find? "HOME").map fun home ↦ Path.child ⟨home⟩ ".local/share"

/-- The data directory, unless nothing says where it should be. -/
def dataDirectory? (e : Environment) (chosen : Option Path) : Option Path :=
  chosen.or (((e.find? "BOOLSEARCH_DATA_DIR").map Path.mk).or
    (e.userData?.map (·.child "boolsearch/")))

/-- The directory of the corpus. -/
def corpus (e : Environment) (chosen : Option Path) : Path :=
  (chosen.or ((e.find? "BOOLSEARCH_CORPUS_DIR").map Path.mk)).getD ⟨"Pages"⟩

end Environment

/-- The cache in a data directory. -/
def Path.cacheIn (dataDirectory : Path) : Path :=
  dataDirectory.child "index.json"

/-- Make the data directory, as far as it is missing. -/
def Volume.prepareData (v : Volume) (e : Environment) (chosen : Option Path) :
    Volume × Except Problem Path :=
  match e.dataDirectory? chosen with
  | none => (v, .error .unknownDataDirectory)
  | some p =>
    match v.makeDirectories p with
    | (w, none) => (w, .ok p)
    | (w, some _) => (w, .error (.noDataDirectory p))

end Concordance
