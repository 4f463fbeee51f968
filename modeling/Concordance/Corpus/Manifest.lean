import Concordance.DocId
import Concordance.Text.Blank
import Concordance.Text.Quoted
import Concordance.Volume.Basic

/-!
# The manifest of a corpus

A corpus is a directory with a manifest and one file for each document. A line of the manifest gives
the identifier of a document, a blank, and the address that the document came from; blanks around
the line and before the address do not count, and neither do empty lines.

Every line that is not empty gives either an entry or a failure. A second line for a document that
has an entry already is a failure, whatever the spelling of its identifier; so the entries have
distinct identifiers, and no two of them share a file.
-/

namespace Concordance

/-- Why a line of a manifest gives no entry. -/
inductive LineFault where
  /-- There is no blank that could end an identifier. -/
  | noBlank
  /-- What stands before the first blank is not an identifier. -/
  | invalidId (text : String) (fault : DocIdFault)
  /-- An earlier line gives an entry for the same document. -/
  | duplicate
  deriving DecidableEq, Repr

/-- The text of a fault. -/
def LineFault.message : LineFault → String
  | noBlank => "expected `<id> <url>`"
  | invalidId t e => "invalid document id " ++ quoted t ++ ": " ++ e.message
  | duplicate => "duplicate document id"

/-- Why a document, or a line of the manifest, was passed over. -/
inductive FailureCause where
  /-- The line of the manifest with this number gives no entry. -/
  | line (number : Nat) (fault : LineFault)
  /-- The file of the document gives no text. -/
  | unreadable (fault : FileFault)
  deriving DecidableEq, Repr

/-- The text of a cause. -/
def FailureCause.message : FailureCause → String
  | line n e => "line " ++ toString n ++ ": " ++ e.message
  | unreadable e => e.message

/-- A document, or a line of the manifest, that was passed over. -/
structure Failure where
  /-- The document, where it is known. -/
  id? : Option DocId
  /-- The file that was read: of the document, or the manifest. -/
  path : Path
  /-- Why it was passed over. -/
  cause : FailureCause
  deriving DecidableEq, Repr

/-- The text of a failure. -/
def Failure.text (f : Failure) : String :=
  match f.id? with
  | some id => "document " ++ id.text ++ " (" ++ f.path.text ++ "): " ++ f.cause.message
  | none => f.path.text ++ ": " ++ f.cause.message

/-- A document of a corpus. -/
structure Entry where
  /-- The identifier. -/
  id : DocId
  /-- The address that the document came from. -/
  url : String
  /-- The file that holds the document. -/
  path : Path
  deriving DecidableEq, Repr

/-- The documents of a corpus, and the lines of its manifest that give none. -/
structure Corpus where
  /-- The directory of the corpus. -/
  root : Path
  /-- The documents, in the order of the manifest. -/
  entries : List Entry
  /-- The lines that give no document, in order. -/
  failures : List Failure
  deriving DecidableEq, Repr

namespace Corpus

/-- The manifest of the corpus in a directory. -/
def manifestPath (root : Path) : Path :=
  root.child "index.txt"

/-- The file of a document of the corpus in a directory. -/
def documentPath (root : Path) (id : DocId) : Path :=
  root.child (id.text ++ ".txt")

/-- The identifier and the address that a trimmed line gives. -/
def readLine (line : List Char) : Except LineFault (DocId × String) :=
  match splitAtBlank? line with
  | none => .error .noBlank
  | some (before, after) =>
    match DocId.parse before with
    | .error e => .error (.invalidId (String.ofList before) e)
    | .ok id => .ok (id, String.ofList (trim after))

/-- What the lines of a manifest give, from the line with the number `n` on, when the documents
`seen` have entries already. -/
def readLines (root : Path) (n : Nat) (seen : List DocId) :
    List (List Char) → List (Except Failure Entry)
  | [] => []
  | line :: rest =>
    if (trim line).isEmpty then readLines root (n + 1) seen rest
    else
      match readLine (trim line) with
      | .error e =>
        .error ⟨none, manifestPath root, .line n e⟩ :: readLines root (n + 1) seen rest
      | .ok (id, url) =>
        if id ∈ seen then
          .error ⟨some id, manifestPath root, .line n .duplicate⟩
            :: readLines root (n + 1) seen rest
        else .ok ⟨id, url, documentPath root id⟩ :: readLines root (n + 1) (id :: seen) rest

/-- What the lines of a manifest give, in order. -/
def readManifest (root : Path) (text : String) : List (Except Failure Entry) :=
  readLines root 1 [] (lines (· = '\n') text.toList)

/-- The entry of a line that gives one. -/
def entry? : Except Failure Entry → Option Entry
  | .ok e => some e
  | .error _ => none

/-- The failure of a line that gives one. -/
def failure? : Except Failure Entry → Option Failure
  | .ok _ => none
  | .error f => some f

/-- The corpus in a directory whose manifest has the given text. -/
def ofManifest (root : Path) (text : String) : Corpus where
  root := root
  entries := (readManifest root text).filterMap entry?
  failures := (readManifest root text).filterMap failure?

end Corpus

/-- The corpus in a directory, if its manifest can be read. -/
def Volume.corpus? (v : Volume) (root : Path) : Option Corpus :=
  match v.textAt (Corpus.manifestPath root) with
  | .ok text => some (.ofManifest root text)
  | .error _ => none

end Concordance
