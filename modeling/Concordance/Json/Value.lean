/-!
# JSON values

The shape of a JSON value, with literals of any kind. Two kinds are used. A value to be written has
natural numbers and texts for literals; a value that was read keeps its literals as they were
written, because whether a literal makes sense depends on the place where it stands: a member that
nobody asks for may hold a text that is no text.
-/

namespace Concordance

/-- A JSON value whose numbers are of type `N` and whose texts are of type `T`. -/
inductive Json (N T : Type) where
  | null
  | bool (b : Bool)
  | number (n : N)
  | text (t : T)
  /-- The items, in order. -/
  | array (items : List (Json N T))
  /-- The members, in order; names may repeat. -/
  | object (members : List (T × Json N T))

end Concordance
