import Concordance.Ordered.Map
import Concordance.Text.Octets
import Concordance.Volume.Fault
import Concordance.Volume.Path

/-!
# Volumes

A volume is a tree of directories and files together with the directory from which relative paths
start. It is held as a finite map from *places* to nodes. A place is the list of names from the root,
so that two paths which lead to the same place are the same key; the root is a directory and has no
entry.

A path is followed name by name, and every name on the way must be a directory. The last name is
treated apart, because whether something must be there, or must not, depends on the operation.

Every place has a node of its own: there are no symbolic links, which would lead a path to another
place, and no hard links, by which two places would share a file. There are no rights either, so that
what is there can be read and written. What is said of every volume is said of such trees.
-/

namespace Concordance

/-- A place in a volume: the names that lead to it from the root. -/
abbrev Place := List String

/-- Places are ordered name by name, and a place comes before the places below it. -/
instance : LE Place := List.instLE

/-- What can be at a place. -/
inductive Node where
  /-- A directory. -/
  | directory
  /-- A file and its content. -/
  | file (content : Octets)
  deriving DecidableEq, Repr

/-- A tree of directories and files. -/
structure Volume where
  /-- The directory from which relative paths start. -/
  here : Place
  /-- What is at each place below the root. -/
  nodes : SortedMap Place Node
  deriving DecidableEq

/-- Where a path leads. -/
inductive Target where
  /-- To a directory, by a path that does not end in a name. -/
  | directory (place : Place)
  /-- To the name `name` in the directory `parent`; with a slash behind it only a directory will
  do. -/
  | entry (parent : Place) (name : String) (slash : Bool)
  deriving DecidableEq, Repr

namespace Volume

/-- What is at a place. -/
def node? (v : Volume) (place : Place) : Option Node :=
  if place = [] then some .directory else v.nodes.find? place

/-- The volume with a node at a place. -/
def put (v : Volume) (place : Place) (n : Node) : Volume :=
  { v with nodes := v.nodes.insert place n }

/-- The volume with nothing at a place. -/
def clear (v : Volume) (place : Place) : Volume :=
  { v with nodes := v.nodes.erase place }

@[simp] theorem node?_nil (v : Volume) : v.node? [] = some .directory := rfl

/-- A node that was put somewhere is there, and all other places are as they were. -/
theorem node?_put (v : Volume) {p : Place} (hp : p ≠ []) (n : Node) (q : Place) :
    (v.put p n).node? q = if q = p then some n else v.node? q := by
  unfold node? put
  by_cases hq : q = []
  · simp [hq, Ne.symm hp]
  · simp [hq, SortedMap.find?_insert]

theorem node?_clear (v : Volume) {p : Place} (hp : p ≠ []) (q : Place) :
    (v.clear p).node? q = if q = p then none else v.node? q := by
  unfold node? clear
  by_cases hq : q = []
  · simp [hq, Ne.symm hp]
  · simp [hq, SortedMap.find?_erase]

/-- Is a name too long for a directory? -/
def isLongName (name : String) : Bool :=
  255 < name.utf8ByteSize

/-- The directory that segments lead to from the directory `place`. -/
def follow (v : Volume) (place : Place) : List String → Except FileFault Place
  | [] => .ok place
  | s :: rest =>
    if Path.isIdle s then v.follow place rest
    else if s = ".." then v.follow place.dropLast rest
    else if isLongName s then .error .nameTooLong
    else
      match v.node? (place ++ [s]) with
      | none => .error .notFound
      | some (.file _) => .error .notADirectory
      | some .directory => v.follow (place ++ [s]) rest

/-- Where the segments of a path lead, given last first, from the directory `place`. -/
def locateFrom (v : Volume) (place : Place) (reversed : List String) :
    Except FileFault Target :=
  let slash := reversed.head? = some ""
  match reversed.dropWhile (· = "") with
  | [] => .ok (.directory place)
  | s :: before =>
    match v.follow place before.reverse with
    | .error e => .error e
    | .ok parent =>
      if s = "." then .ok (.directory parent)
      else if s = ".." then .ok (.directory parent.dropLast)
      else if isLongName s then .error .nameTooLong
      else .ok (.entry parent s slash)

/-- Where a path leads. -/
def locate (v : Volume) (p : Path) : Except FileFault Target :=
  if p.text.toList.contains '\x00' then .error .nullInName
  else if p.text.isEmpty then .error .notFound
  else if 4096 ≤ p.text.utf8ByteSize then .error .nameTooLong
  else v.locateFrom (if p.isAbsolute then [] else v.here) p.segments.reverse

/-- What is at a path. -/
def nodeAt (v : Volume) (p : Path) : Except FileFault Node :=
  match v.locate p with
  | .error e => .error e
  | .ok (.directory _) => .ok .directory
  | .ok (.entry parent name slash) =>
    match v.node? (parent ++ [name]), slash with
    | none, _ => .error .notFound
    | some (.file _), true => .error .notADirectory
    | some n, _ => .ok n

/-- Is there a directory at the path? -/
def isDirectory (v : Volume) (p : Path) : Bool :=
  v.nodeAt p matches .ok .directory

/-- The content of the file at a path. -/
def contentAt (v : Volume) (p : Path) : Except FileFault Octets :=
  match v.nodeAt p with
  | .error e => .error e
  | .ok .directory => .error .isADirectory
  | .ok (.file content) => .ok content

/-- The text of the file at a path. -/
def textAt (v : Volume) (p : Path) : Except FileFault String :=
  match v.contentAt p with
  | .error e => .error e
  | .ok content => (textOf? content).elim (.error .notText) .ok

end Volume

end Concordance
