import Concordance.Volume.Change

/-!
# Replacing a file as a whole

A file that others rely on is never written in place. Its new content goes to a *sibling*, a file of
nearly the same name beside it, and the sibling then takes the place of the file in one step. At every
moment the path therefore holds the old content or the new one, and never a part.

Besides the faults of paths, the device itself may fail at any step. A `Mishap` says at which; what
the steps before it have done remains.
-/

namespace Concordance

/-- The file beside `p` to which the new content of `p` is written. -/
def Path.sibling (p : Path) : Path :=
  p.withFileName (p.fileName?.getD "" ++ ".tmp")

/-- A failure of the device while a file is replaced. -/
inductive Mishap where
  /-- The directory that holds the file, or with `n > 0` its `n`-th ancestor, cannot be made. -/
  | ancestor (n : Nat)
  /-- The sibling cannot be created. -/
  | creation
  /-- Only this many octets of the content can be written. -/
  | writing (length : Nat)
  /-- The sibling cannot take the place of the file. -/
  | renaming
  deriving DecidableEq, Repr

namespace Volume

/-- Make the directory that holds the file at `p`, unless the path names none. -/
def makeHolder (v : Volume) (p : Path) (m : Option Mishap) : Volume × Option FileFault :=
  match p.parent? with
  | none => (v, none)
  | some q =>
    if q.text.isEmpty then (v, none)
    else
      match m with
      | some (.ancestor n) => ((v.makeChain (q.ancestors.drop n)).1, some .noSpace)
      | _ => v.makeDirectories q

/-- Write the new content of the file at `p` to its sibling. -/
def writeSibling (v : Volume) (p : Path) (content : Octets) (m : Option Mishap) :
    Volume × Option FileFault :=
  let written (content : Octets) (fault : Option FileFault) :=
    match v.writeFile p.sibling content with
    | .ok w => (w, fault)
    | .error e => (v, some e)
  match m with
  | some .creation => (v, some .noSpace)
  | some (.writing n) => written (content.take n) (some .noSpace)
  | _ => written content none

/-- Let the sibling of the file at `p` take its place. -/
def promoteSibling (v : Volume) (p : Path) (m : Option Mishap) : Volume × Option FileFault :=
  match m with
  | some .renaming => (v, some .noSpace)
  | _ =>
    match v.moveFile p.sibling p with
    | .ok w => (w, none)
    | .error e => (v, some e)

/-- Replace the file at `p` as a whole. The first step that fails is the last. -/
def replaceFile (v : Volume) (p : Path) (content : Octets) (m : Option Mishap) :
    Volume × Option FileFault :=
  match v.makeHolder p m with
  | (w, some e) => (w, some e)
  | (w, none) =>
    match w.writeSibling p content m with
    | (w, some e) => (w, some e)
    | (w, none) => w.promoteSibling p m

end Volume

end Concordance
