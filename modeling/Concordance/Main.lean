import Concordance.Command.Run

/-!
# The program

Everything is decided by the library on volumes. This module only fetches the part of the file system
that a request is about into a volume, lets the library work on it, and stores what has changed. In a
session it does so around each command that rebuilds the index, so that files may change meanwhile.

A directory is fetched as a directory, without what is in it; a path that cannot be read counts as
absent. Changed files are written beside their place and then moved there.
-/

namespace Concordance

namespace Program

/-- Standard input, output and error. -/
structure Streams where
  /-- Standard input. -/
  input : IO.FS.Stream
  /-- Standard output. -/
  output : IO.FS.Stream
  /-- Standard error. -/
  diagnostics : IO.FS.Stream

/-! ### Files -/

/-- The path of a place. -/
def pathOf (place : Place) : String := "/" ++ "/".intercalate place

/-- What the file system holds at a path. -/
def fetchNode (path : String) : IO (Option Node) := do
  match ← (IO.FS.realPath path).toBaseIO with
  | .error _ => return none
  | .ok found =>
    if ← found.isDir then return some .directory
    match ← (IO.FS.readBinFile found).toBaseIO with
    | .ok content => return some (.file content.toList)
    | .error _ => return none

/-- The volume with what the file system holds at a path. -/
def fetchPath (v : Volume) (p : Path) : IO Volume := do
  match v.locate p with
  | .ok (.entry parent name _) =>
    let place := parent ++ [name]
    if (v.node? place).isSome then return v
    match ← fetchNode (pathOf place) with
    | some n => return v.put place n
    | none => return v
  | _ => return v

/-- The volume with what the file system holds at paths and above them. -/
def fetch (v : Volume) (paths : List Path) : IO Volume :=
  paths.foldlM (fun v p ↦ (p :: p.ancestors).reverse.foldlM fetchPath v) v

/-- The volume that a task may look at. -/
def fetchFor (a : Assignment) : IO Volume := do
  let here := Path.segments ⟨(← IO.currentDir).toString⟩
  let v : Volume := ⟨here.filter (· ≠ ""), ∅⟩
  let v ← fetch v [a.dataDirectory, a.cache, a.cache.sibling, Corpus.manifestPath a.corpus]
  match v.corpus? a.corpus with
  | some c => fetch v (c.entries.map Entry.path)
  | none => return v

/-- Write a file beside its place and move it there. -/
def storeFile (place : Place) (content : Octets) : IO Unit := do
  IO.FS.writeBinFile (pathOf place ++ ".tmp") content.toByteArray
  IO.FS.rename (pathOf place ++ ".tmp") (pathOf place)

/-- Store in the file system what differs between two volumes. -/
def store (before after : Volume) : IO Unit := do
  for (place, n) in after.nodes.pairs do
    if before.node? place ≠ some n then
      match n with
      | .directory => IO.FS.createDir (pathOf place)
      | .file content => storeFile place content
  for (place, _) in before.nodes.pairs do
    if (after.node? place).isNone then IO.FS.removeFile (pathOf place)

/-- Store what can be stored. -/
def storeSoftly (before after : Volume) : IO Unit := do
  let _ ← (store before after).toBaseIO

/-! ### Tasks -/

/-- Write the outputs of a task and give its exit code. -/
def finish (s : Streams) (o : Outcome) : IO UInt32 := do
  s.output.putStr o.output
  s.output.flush
  s.diagnostics.putStr o.diagnostics
  return o.code.toUInt32

/-- The next line of the input, with its line break. -/
partial def nextLine (s : Streams) (read : Octets) : IO Octets := do
  match (← s.input.read 1).toList with
  | [] => return read.reverse
  | b :: _ => if b = 0x0a then return (b :: read).reverse else nextLine s (b :: read)

/-- Answer the lines of the input as they come. -/
partial def converse (s : Streams) (a : Assignment) (session : Session) (x : Index) :
    IO UInt32 := do
  let line ← nextLine s []
  if line.isEmpty then return 0
  let isRebuild := (textOf? line).map SessionLine.ofText = some (.command "rebuild")
  let before ← if isRebuild then fetchFor a else pure ⟨[], ∅⟩
  let t := session.answerLines ⟨before, x⟩ (lines (· = 0x0a) line)
  storeSoftly before t.state.volume
  if t.isText then
    s.output.putStr t.output
    s.output.flush
    converse s a session t.state.index
  else finish s (.failure t.state.volume t.output .inputNotText)

/-- Carry out a task. -/
def perform (s : Streams) (a : Assignment) : IO UInt32 := do
  let before ← fetchFor a
  match a.request.task with
  | .repl showUrls =>
    let st := a.opening before
    storeSoftly before st.volume
    s.output.putStr a.request.reader.spelling.prompt
    s.output.flush
    converse s a (a.session showUrls) st.index
  | _ =>
    let o := a.perform before []
    storeSoftly before o.volume
    finish s o

/-- The variables of the environment that matter. -/
def environment : IO Environment := do
  let names := ["BOOLSEARCH_DATA_DIR", "BOOLSEARCH_CORPUS_DIR", "XDG_DATA_HOME", "HOME"]
  return .ofList (← names.filterMapM fun n ↦ do return (← IO.getEnv n).map (n, ·))

/-- Make the data directory and carry out the request. -/
def carryOut (s : Streams) (r : Request) : IO UInt32 := do
  let e ← environment
  match e.dataDirectory? r.dataDirectory? with
  | none => finish s (.failure ⟨[], ∅⟩ "" .unknownDataDirectory)
  | some directory =>
    let a : Assignment := ⟨r, directory, e.corpus r.corpus?⟩
    let before ← fetchFor a
    let (after, made) := before.prepareData e r.dataDirectory?
    match made, ← (store before after).toBaseIO with
    | .ok _, .ok _ => perform s a
    | _, _ => finish s (.failure after "" (.noDataDirectory directory))

/-- How the program is called. -/
def usage : String :=
  "Tasks: " ++ ", ".intercalate ([TaskName.repl, .build, .search, .status].map TaskName.text) ++ "\n"
    ++ "Choices: " ++ ", ".intercalate ([Choice.dataDirectory, .corpus, .alphabet].map fun c ↦
      "--" ++ c.text ++ " VALUE") ++ "\n"
    ++ "Switches: " ++ ", ".intercalate ((Switch.available none).map fun w ↦ "--" ++ w.text) ++ "\n"

end Program

end Concordance

open Concordance Program in
/-- Run the command line. -/
def main (arguments : List String) : IO UInt32 := do
  let s : Streams := ⟨← IO.getStdin, ← IO.getStdout, ← IO.getStderr⟩
  match Request.read arguments with
  | .error .help => finish s ⟨⟨[], ∅⟩, 0, usage, ""⟩
  | .error .misuse => finish s ⟨⟨[], ∅⟩, 2, "", usage⟩
  | .ok r =>
    match r.task with
    | .completions _ => return 0
    | _ => carryOut s r
