import Concordance.Text.Quoted

/-!
# Faults of a volume

Why an operation on files fails. Most faults are those of the operating system, which numbers them;
two are found before or after the operating system is asked.
-/

namespace Concordance

/-- Why an operation on files fails. -/
inductive FileFault where
  /-- There is nothing at the path. -/
  | notFound
  /-- There is something at the path already. -/
  | alreadyExists
  /-- The path leads through a file. -/
  | notADirectory
  /-- There is a directory where a file is needed. -/
  | isADirectory
  /-- The path is a place that cannot be replaced. -/
  | busy
  /-- A name, or the whole path, is too long. -/
  | nameTooLong
  /-- The path holds a null character. -/
  | nullInName
  /-- The content is not text. -/
  | notText
  /-- The device is full. -/
  | noSpace
  deriving DecidableEq, Repr

namespace FileFault

/-- The number that the operating system gives to a fault of its own. -/
def number? : FileFault → Option Nat
  | notFound => some 2
  | alreadyExists => some 17
  | notADirectory => some 20
  | isADirectory => some 21
  | busy => some 16
  | nameTooLong => some 36
  | noSpace => some 28
  | nullInName => none
  | notText => none

/-- The kind of a fault in records. -/
def kind : FileFault → String
  | notFound => "NotFound"
  | alreadyExists => "AlreadyExists"
  | notADirectory => "NotADirectory"
  | isADirectory => "IsADirectory"
  | busy => "ResourceBusy"
  | nameTooLong => "InvalidFilename"
  | noSpace => "StorageFull"
  | nullInName => "InvalidInput"
  | notText => "InvalidData"

/-- The description of a fault. -/
def description : FileFault → String
  | notFound => "No such file or directory"
  | alreadyExists => "File exists"
  | notADirectory => "Not a directory"
  | isADirectory => "Is a directory"
  | busy => "Device or resource busy"
  | nameTooLong => "File name too long"
  | noSpace => "No space left on device"
  | nullInName => "file name contained an unexpected NUL byte"
  | notText => "stream did not contain valid UTF-8"

/-- The text of a fault: its description, and the number that the operating system gives to it. -/
def message (e : FileFault) : String :=
  match e.number? with
  | some n => e.description ++ " (os error " ++ toString n ++ ")"
  | none => e.description

/-- The record of a fault: its number, if it has one, its kind and its description. -/
def record (e : FileFault) : String :=
  let rest := "kind: " ++ e.kind ++ ", message: " ++ quoted e.description ++ " \x7d"
  match e.number? with
  | some n => "Os \x7b code: " ++ toString n ++ ", " ++ rest
  | none => "Error \x7b " ++ rest

end FileFault

end Concordance
