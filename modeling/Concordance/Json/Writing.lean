import Concordance.Json.Literal
import Concordance.Json.Value

/-!
# Writing JSON

The compact form of a JSON value: no blanks, members in the order they are given.
-/

namespace Concordance.Json

/-- The written form of a text: its escaped characters between quotation marks. -/
def writeText (t : String) : List Char :=
  '"' :: escape t.toList ++ ['"']

mutual

/-- The written form of a value. -/
def write : Json Nat String → List Char
  | .null => "null".toList
  | .bool true => "true".toList
  | .bool false => "false".toList
  | .number n => Nat.toDigits 10 n
  | .text t => writeText t
  | .array items => '[' :: writeItems items ++ [']']
  | .object members => '\x7b' :: writeMembers members ++ ['\x7d']
  termination_by structural v => v

/-- The written form of the items of an array. -/
def writeItems : List (Json Nat String) → List Char
  | [] => []
  | [v] => write v
  | v :: w :: items => write v ++ ',' :: writeItems (w :: items)
  termination_by structural items => items

/-- The written form of the members of an object. -/
def writeMembers : List (String × Json Nat String) → List Char
  | [] => []
  | [m] => writeMember m
  | m :: n :: members => writeMember m ++ ',' :: writeMembers (n :: members)
  termination_by structural members => members

/-- The written form of a member. -/
def writeMember : String × Json Nat String → List Char
  | (k, v) => writeText k ++ ':' :: write v
  termination_by structural m => m

end

/-- The written form of a value, as a text. -/
def toText (v : Json Nat String) : String :=
  String.ofList (write v)

end Concordance.Json
