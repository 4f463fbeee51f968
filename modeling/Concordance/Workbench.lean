import Concordance.Command.Run
import Concordance.Handles

/-!
# Workbenches

A workbench holds named indexes, handles, and the files from which indexes come and to which they
go. Everything that can be done is an operation on the whole workbench, and a *history* is a list of
them; a fact about every index that can ever be held is a fact about all histories.

A name that was never used stands for the empty index.
-/

namespace Concordance

/-- Named indexes, handles and files. -/
structure Workbench where
  /-- The named indexes. -/
  slots : SortedMap String Index
  /-- The handles. -/
  handles : Handles
  /-- The files. -/
  volume : Volume
  deriving DecidableEq

namespace Workbench

/-- The index with a name. -/
def slot (w : Workbench) (name : String) : Index :=
  (w.slots.find? name).getD ∅

/-- The workbench with a named index. -/
def setSlot (w : Workbench) (name : String) (x : Index) : Workbench :=
  { w with slots := w.slots.insert name x }

theorem slot_setSlot (w : Workbench) (name other : String) (x : Index) :
    (w.setSlot name x).slot other = if other = name then x else w.slot other := by
  by_cases h : other = name <;> simp [slot, setSlot, SortedMap.find?_insert, h]

/-! ### Indexes -/

/-- Add a document and its terms to an index. -/
def add (w : Workbench) (name : String) (id : DocId) (terms : List String) : Workbench :=
  w.setSlot name ((w.slot name).add id terms)

/-- Record the address of a document in an index. -/
def setSource (w : Workbench) (name : String) (id : DocId) (url : String) : Workbench :=
  w.setSlot name ((w.slot name).setSource id url)

/-- Merge another index into an index. -/
def merge (w : Workbench) (name other : String) : Workbench :=
  w.setSlot name ((w.slot name).merge (w.slot other))

/-! ### Caches and corpora -/

/-- Save an index, whether it has a name or not. -/
def save (w : Workbench) (x : Index) (s : Settings) (p : Path) (m : Option Mishap) :
    Workbench × Except Problem Unit :=
  match w.volume.saveCache x s p m with
  | (v, none) => ({ w with volume := v }, .ok ())
  | (v, some e) => ({ w with volume := v }, .error (.cacheNotSaved p e))

/-- Load an index. Without one that can be used, the named index stays. -/
def load (w : Workbench) (name : String) (s : Settings) (p : Path) :
    Workbench × Option Index :=
  match w.volume.loadCache? p s with
  | none => (w, none)
  | some x => (w.setSlot name x, some x)

/-- The corpus in a directory. -/
def corpus (w : Workbench) (root : Path) : Except Problem Corpus :=
  match w.volume.corpus? root with
  | none => .error (.noManifest (Corpus.manifestPath root))
  | some c => .ok c

/-- Survey a corpus. Without one, the named index stays. -/
def survey (w : Workbench) (name : String) (root : Path) (s : Settings) (i : Interrupt) :
    Workbench × Except Problem Survey :=
  match w.corpus root with
  | .error e => (w, .error e)
  | .ok c => (w.setSlot name (c.survey w.volume s i).index, .ok (c.survey w.volume s i))

/-- Supply an index, from the cache if that can be used. -/
def provide (w : Workbench) (name : String) (s : Supply) : Workbench × Supplied :=
  let (v, x) := s.provide w.volume
  ({ w with volume := v }.setSlot name x.index, x)

/-- Supply an index from the corpus. -/
def rebuild (w : Workbench) (name : String) (s : Supply) : Workbench × Supplied :=
  let (v, x) := s.rebuild w.volume
  ({ w with volume := v }.setSlot name (Supplied.ofSurvey x).index, .ofSurvey x)

/-! ### Handles -/

/-- Publish an index through a handle, whether it has a name or not. -/
def publish (w : Workbench) (handle : String) (x : Index) : Workbench :=
  { w with handles := w.handles.publish handle x }

/-- Take a snapshot of the index of a handle. -/
def snapshot (w : Workbench) (handle name : String) : Workbench :=
  { w with handles := w.handles.ensure handle }.setSlot name (w.handles.snapshot handle)

/-- Give a handle another name. -/
def share (w : Workbench) (handle other : String) : Workbench :=
  { w with handles := w.handles.share handle other }

/-- Let a name stand for a new handle with the given index. -/
def makeHandle (w : Workbench) (handle : String) (x : Index) : Workbench :=
  { w with handles := w.handles.make handle x }

/-- Hold a session over a handle. -/
def converse (w : Workbench) (handle : String) (s : Session) (input : Octets) :
    Workbench × Transcript :=
  let t := s.run ⟨w.volume, w.handles.snapshot handle⟩ input
  ({ w with volume := t.state.volume, handles := w.handles.publish handle t.state.index }, t)

/-! ### Files and command lines -/

/-- Put files and empty directories in place, with the directories above them. -/
def arrange (w : Workbench) (files : List (Path × Option Octets)) : Workbench :=
  { w with volume := files.foldl (fun v f ↦ v.arrange f.1 f.2) w.volume }

/-- Remove a file, or a directory with everything in it. -/
def remove (w : Workbench) (p : Path) : Workbench × Bool :=
  match w.volume.remove p with
  | .ok v => ({ w with volume := v }, true)
  | .error _ => (w, false)

/-- Make a data directory. -/
def prepareData (w : Workbench) (e : Environment) (chosen : Option Path) :
    Workbench × Except Problem Path :=
  let (v, r) := w.volume.prepareData e chosen
  ({ w with volume := v }, r)

/-- Run a command line. -/
def runCommand (w : Workbench) (e : Environment) (arguments : List String) (input : Octets) :
    Workbench × Outcome :=
  let o := w.volume.runCommand e arguments input
  ({ w with volume := o.volume }, o)

end Workbench

/-! ### Histories -/

/-- Something that is done on a workbench. -/
inductive Action where
  /-- Add a document and its terms to an index. -/
  | add (slot : String) (id : DocId) (terms : List String)
  /-- Record the address of a document in an index. -/
  | setSource (slot : String) (id : DocId) (url : String)
  /-- Merge another index into an index. -/
  | merge (slot other : String)
  /-- Save a named index. -/
  | save (slot : String) (s : Settings) (p : Path) (m : Option Mishap)
  /-- Load an index. -/
  | load (slot : String) (s : Settings) (p : Path)
  /-- Survey a corpus. -/
  | survey (slot : String) (root : Path) (s : Settings) (i : Interrupt)
  /-- Supply an index, from the cache if that can be used. -/
  | provide (slot : String) (s : Supply)
  /-- Supply an index from the corpus. -/
  | rebuild (slot : String) (s : Supply)
  /-- Publish a named index through a handle. -/
  | publish (handle slot : String)
  /-- Take a snapshot of the index of a handle. -/
  | snapshot (handle slot : String)
  /-- Give a handle another name. -/
  | share (handle other : String)
  /-- Hold a session over a handle. -/
  | converse (handle : String) (s : Session) (input : Octets)
  /-- Put files and empty directories in place. -/
  | arrange (files : List (Path × Option Octets))
  /-- Remove a file, or a directory with everything in it. -/
  | remove (p : Path)
  /-- Make a data directory. -/
  | prepareData (e : Environment) (chosen : Option Path)
  /-- Run a command line. -/
  | runCommand (e : Environment) (arguments : List String) (input : Octets)

namespace Workbench

/-- The workbench after an action. -/
def after (w : Workbench) : Action → Workbench
  | .add slot id terms => w.add slot id terms
  | .setSource slot id url => w.setSource slot id url
  | .merge slot other => w.merge slot other
  | .save slot s p m => (w.save (w.slot slot) s p m).1
  | .load slot s p => (w.load slot s p).1
  | .survey slot root s i => (w.survey slot root s i).1
  | .provide slot s => (w.provide slot s).1
  | .rebuild slot s => (w.rebuild slot s).1
  | .publish handle slot => w.publish handle (w.slot slot)
  | .snapshot handle slot => w.snapshot handle slot
  | .share handle other => w.share handle other
  | .converse handle s input => (w.converse handle s input).1
  | .arrange files => w.arrange files
  | .remove p => (w.remove p).1
  | .prepareData e chosen => (w.prepareData e chosen).1
  | .runCommand e arguments input => (w.runCommand e arguments input).1

/-- The workbench after a history, first action first. -/
def afterAll (w : Workbench) (history : List Action) : Workbench :=
  history.foldl after w

end Workbench

end Concordance
