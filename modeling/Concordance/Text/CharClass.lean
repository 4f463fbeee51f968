/-!
# Classes of characters

A class of characters is a list of inclusive ranges of code points, as the Unicode data files state
their properties. Nothing is assumed of the ranges: they may touch, and membership is a search.
Unless a class says otherwise, it follows version 16 of the Unicode data.
-/

namespace Concordance

/-- A class of characters, given by inclusive ranges of code points. -/
structure CharClass where
  /-- First and last code point of each range. -/
  ranges : List (Nat × Nat)

namespace CharClass

/-- Does the character lie in one of the ranges? -/
def contains (k : CharClass) (c : Char) : Bool :=
  k.ranges.any fun r ↦ r.1 ≤ c.toNat && c.toNat ≤ r.2

/-- A character is in a class if its number is in one of the ranges. -/
theorem contains_eq_true_iff {k : CharClass} {c : Char} :
    k.contains c = true ↔ ∃ r ∈ k.ranges, r.1 ≤ c.toNat ∧ c.toNat ≤ r.2 := by
  simp [contains]

end CharClass

end Concordance
