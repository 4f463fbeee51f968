import Concordance.Index.Basic
import Concordance.Json.Writing

/-!
# Listings of answers

Three written forms of a list of identifiers: the list in brackets; the same with a line for each
document whose address is known, in the form in which manifests give documents; and one JSON object,
whose members are in alphabetical order.
-/

namespace Concordance

/-- The identifiers in brackets, separated by commas. -/
def listIds (ids : List DocId) : String :=
  "[" ++ ", ".intercalate (ids.map DocId.text) ++ "]"

namespace Index

/-- The line of a document in a listing with addresses, if its address is known. -/
def sourceLine (x : Index) (id : DocId) : String :=
  match x.source? id with
  | some url => id.text ++ "\t" ++ url ++ "\n"
  | none => ""

/-- The identifiers in brackets on the first line, then a line for each known address. -/
def listWithSources (x : Index) (ids : List DocId) : String :=
  listIds ids ++ "\n" ++ String.join (ids.map x.sourceLine)

/-- A result as a JSON value. -/
def resultJson (x : Index) (id : DocId) : Json Nat String :=
  .object [("id", .number id.toNat), ("url", (x.source? id).elim .null .text)]

/-- The results of a query as a JSON value. -/
def resultsJson (x : Index) (query : String) (ids : List DocId) : Json Nat String :=
  .object
    [("query", .text query), ("result_count", .number ids.length),
      ("results", .array (ids.map x.resultJson))]

/-- The results of a query as one JSON object. -/
def listAsJson (x : Index) (query : String) (ids : List DocId) : String :=
  (x.resultsJson query ids).toText

end Index

end Concordance
