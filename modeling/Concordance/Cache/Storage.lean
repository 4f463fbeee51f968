import Concordance.Cache.Record
import Concordance.Volume.Replacement

/-!
# Caches on a volume

A cache is a file that holds the document of a record. Saving replaces the file as a whole. Loading
never fails: where there is no file, or one that cannot be used under the settings that are asked
for, there is simply nothing to load, and whoever asked reads the corpus instead.
-/

namespace Concordance

namespace Volume

/-- The length of the cache at a path. An empty file does not count as one. -/
def cacheLength? (v : Volume) (p : Path) : Option Nat :=
  match v.nodeAt p with
  | .ok (.file content) => if content.isEmpty then none else some content.length
  | _ => none

/-- Save an index made under the given settings. -/
def saveCache (v : Volume) (x : Index) (s : Settings) (p : Path) (m : Option Mishap) :
    Volume × Option FileFault :=
  v.replaceFile p (CacheRecord.ofIndex x s).encode m

/-- The index in the cache at a path, if it can be used under the given settings. -/
def loadCache? (v : Volume) (p : Path) (s : Settings) : Option Index :=
  match v.cacheLength? p, v.contentAt p with
  | some _, .ok content => (CacheRecord.decode? content).bind (·.toIndex? s)
  | _, _ => none

end Volume

end Concordance
