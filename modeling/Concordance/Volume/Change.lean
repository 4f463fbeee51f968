import Concordance.Volume.Basic

/-!
# Changing a volume

Each operation returns the volume after it, or the fault that kept it from doing anything. The one
operation that may stop half way is making a directory together with its ancestors; it therefore
returns the volume in any case.
-/

namespace Concordance

namespace Volume

/-- Make a directory. Its parent must be there. -/
def makeDirectory (v : Volume) (p : Path) : Except FileFault Volume :=
  match v.locate p with
  | .error e => .error e
  | .ok (.directory _) => .error .alreadyExists
  | .ok (.entry parent name _) =>
    match v.node? (parent ++ [name]) with
    | some _ => .error .alreadyExists
    | none => .ok (v.put (parent ++ [name]) .directory)

/-- Make a directory unless it is there already. -/
def ensureDirectory (v : Volume) (p : Path) : Volume × Option FileFault :=
  match v.makeDirectory p with
  | .ok w => (w, none)
  | .error e => (v, if v.isDirectory p then none else some e)

/-- Make the first of the paths a directory, and before that, where it is missing, the second, and
so on; each path is the parent of the one before it. -/
def makeChain (v : Volume) : List Path → Volume × Option FileFault
  | [] => (v, none)
  | p :: parents =>
    if p.text.isEmpty then (v, none)
    else
      match v.makeDirectory p with
      | .ok w => (w, none)
      | .error .notFound =>
        match v.makeChain parents with
        | (w, none) => w.ensureDirectory p
        | (w, some e) => (w, some e)
      | .error e => (v, if v.isDirectory p then none else some e)

/-- Make a directory together with its ancestors, as far as they are missing. -/
def makeDirectories (v : Volume) (p : Path) : Volume × Option FileFault :=
  v.makeChain (p :: p.ancestors)

/-- Write a file, whether or not there is one at the path. -/
def writeFile (v : Volume) (p : Path) (content : Octets) : Except FileFault Volume :=
  match v.locate p with
  | .error e => .error e
  | .ok (.directory _) => .error .isADirectory
  | .ok (.entry _ _ true) => .error .isADirectory
  | .ok (.entry parent name false) =>
    match v.node? (parent ++ [name]) with
    | some .directory => .error .isADirectory
    | _ => .ok (v.put (parent ++ [name]) (.file content))

/-- Give the file at `p` the path `q`, in place of a file that is there. Neither path may end in
anything but a name. -/
def moveFile (v : Volume) (p q : Path) : Except FileFault Volume :=
  match v.locate p, v.locate q with
  | .error e, _ => .error e
  | .ok _, .error e => .error e
  | .ok (.directory _), _ => .error .busy
  | _, .ok (.directory _) => .error .busy
  | .ok (.entry d n s), .ok (.entry d' n' s') =>
    match v.node? (d ++ [n]) with
    | none => .error .notFound
    | some .directory => .error .isADirectory
    | some (.file content) =>
      if s || s' then .error .notADirectory
      else
        match v.node? (d' ++ [n']) with
        | some .directory => .error .isADirectory
        | _ => .ok ((v.clear (d ++ [n])).put (d' ++ [n']) (.file content))

/-- Remove what is at a path, with everything below it. -/
def remove (v : Volume) (p : Path) : Except FileFault Volume :=
  match v.nodeAt p with
  | .error e => .error e
  | .ok _ =>
    match v.locate p with
    | .ok (.entry parent name _) =>
      .ok { v with nodes := v.nodes.filter fun q ↦ !(parent ++ [name]).isPrefixOf q.1 }
    | _ => .error .busy

/-- Put a file with the given content at a path, or a directory if no content is given, and make the
directories above it. What cannot be done is left undone. -/
def arrange (v : Volume) (p : Path) : Option Octets → Volume
  | none => (v.makeDirectories p).1
  | some content =>
    let v := (p.parent?.elim (v, none) v.makeDirectories).1
    match v.writeFile p content with
    | .ok w => w
    | .error _ => v

/-- Everything below the directory from which relative paths start, by relative path, in ascending
order of paths. -/
def listing (v : Volume) : SortedMap String Node :=
  .ofList <| v.nodes.pairs.filterMap fun (place, n) ↦
    if v.here.isPrefixOf place && v.here.length < place.length then
      some ("/".intercalate (place.drop v.here.length), n)
    else none

end Volume

end Concordance
