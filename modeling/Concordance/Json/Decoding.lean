import Concordance.Json.Reading

/-!
# Decoding JSON values

What a value that was read means where a value of a known kind is expected. A record may be written
as an object, by the names of its fields, or as an array, by their order. In an object, members
that are no field of the record are passed over, but their names must be text; a field that is given
twice makes the record void.
-/

namespace Concordance.Json

/-- The truth value. -/
def asBool? : RawJson → Option Bool
  | .bool b => some b
  | _ => none

/-- The natural number. -/
def asNatural? : RawJson → Option Nat
  | .number literal => naturalLiteral? literal
  | _ => none

/-- The text. -/
def asText? : RawJson → Option String
  | .text literal => textLiteral? literal
  | _ => none

/-- The items of the array. -/
def asArray? : RawJson → Option (List RawJson)
  | .array items => some items
  | _ => none

/-- The members of the object, with their names as they were written. -/
def asObject? : RawJson → Option (List (Octets × RawJson))
  | .object members => some members
  | _ => none

/-- The members with their names read as texts. -/
def namedMembers? (members : List (Octets × RawJson)) : Option (List (String × RawJson)) :=
  members.mapM fun m ↦ (textLiteral? m.1).map fun name ↦ (name, m.2)

/-- The fields of a record whose fields have the given names, in the given order. -/
def fields? (names : List String) : RawJson → Option (List (String × RawJson))
  | .array items => if items.length ≤ names.length then some (names.zip items) else none
  | .object members => do
    let members ← namedMembers? members
    if names.all fun n ↦ (members.filter fun m ↦ m.1 = n).length ≤ 1 then some members else none
  | _ => none

end Concordance.Json
