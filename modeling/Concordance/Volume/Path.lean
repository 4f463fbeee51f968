import Concordance.Text.Cut

/-!
# Paths

A path is a text in which slashes separate names. Joining, the parent and the last name follow the
text: empty segments and dots between slashes do not count, except for a dot at the very beginning,
and two dots are a segment like any other, because only a volume knows what they lead to.
-/

namespace Concordance

/-- A path, as it is written. -/
structure Path where
  /-- The written form. -/
  text : String
  deriving DecidableEq, Repr

namespace Path

/-- The segments between slashes. -/
def segments (p : Path) : List String :=
  (cut (· = '/') p.text.toList).map String.ofList

/-- Does the path begin at the root? -/
def isAbsolute (p : Path) : Bool :=
  p.text.toList.head? = some '/'

/-- The path to `q` as seen from `p`. -/
def join (p q : Path) : Path :=
  if q.isAbsolute || p.text.isEmpty then q
  else if p.text.toList.getLast? = some '/' then ⟨p.text ++ q.text⟩
  else ⟨p.text ++ "/" ++ q.text⟩

/-- The path to the name `n` inside `p`. -/
def child (p : Path) (n : String) : Path :=
  p.join ⟨n⟩

/-- Does a segment leave the place as it is? -/
def isIdle (segment : String) : Bool :=
  segment = "" || segment = "."

/-- What a path begins with before its segments count: a slash, a single dot, or nothing. -/
def stem (p : Path) : String :=
  match p.text.toList with
  | '/' :: _ => "/"
  | ['.'] => "."
  | '.' :: '/' :: _ => "."
  | _ => ""

/-- The segments after the stem, last first. -/
def reverseSegments (p : Path) : List String :=
  (cut (· = '/') (p.text.toList.drop p.stem.length)).reverse.map String.ofList

/-- The path with the given stem and segments, last first, without idle segments at its end. -/
def ofReverseSegments (stem : String) (segments : List String) : Path :=
  ⟨stem ++ "/".intercalate (segments.dropWhile isIdle).reverse⟩

/-- The proper ancestors of a path with the given stem and segments, last first; nearest first. -/
def ancestorsOf (stem : String) : List String → List Path
  | [] => if stem = "." then [⟨""⟩] else []
  | s :: rest =>
    if isIdle s then ancestorsOf stem rest
    else ofReverseSegments stem rest :: ancestorsOf stem rest

/-- The proper ancestors of a path, nearest first. A relative path ends in the empty one. -/
def ancestors (p : Path) : List Path :=
  ancestorsOf p.stem p.reverseSegments

/-- The parent of a path. -/
def parent? (p : Path) : Option Path :=
  p.ancestors.head?

/-- The last name of a path, unless it ends in two dots or has none. -/
def fileName? (p : Path) : Option String :=
  match p.reverseSegments.dropWhile isIdle with
  | [] => none
  | s :: _ => if s = ".." then none else some s

/-- The path with its last name replaced, or with the name added if it has none. -/
def withFileName (p : Path) (n : String) : Path :=
  match p.fileName?, p.parent? with
  | some _, some q => q.child n
  | _, _ => p.child n

end Path

end Concordance
