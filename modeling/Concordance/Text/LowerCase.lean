/-!
# Lower case

The lower-case form of the letters of the Cyrillic and Latin scripts. The letters that change do so
in rows: the members of a row are `step` apart and are moved by one distance, so a row is given by
its first and last member, the image of the first, and the step. Every other character is its own
lower-case form, with one exception: the capital I with a dot above becomes two characters.

No letter of the two scripts has a lower-case form that depends on the letters around it.
-/

namespace Concordance

/-- A row of capital letters: members `step` apart from `first` to `last`, the first of which has
the image `image`. -/
structure CaseRow where
  /-- The first capital of the row. -/
  first : Nat
  /-- The last capital of the row. -/
  last : Nat
  /-- The lower-case form of the first capital. -/
  image : Nat
  /-- The distance between neighbours of the row. -/
  step : Nat

/-- The lower-case form of `n`, if `n` is a member of the row. -/
def CaseRow.lower? (r : CaseRow) (n : Nat) : Option Nat :=
  if r.first ≤ n ∧ n ≤ r.last ∧ (n - r.first) % r.step = 0 then some (r.image + (n - r.first))
  else none

/-- The rows of both scripts, in ascending order. -/
def caseRows : List CaseRow :=
  [⟨0x0041, 0x005A, 0x0061, 1⟩, ⟨0x00C0, 0x00D6, 0x00E0, 1⟩, ⟨0x00D8, 0x00DE, 0x00F8, 1⟩,
   ⟨0x0100, 0x012E, 0x0101, 2⟩, ⟨0x0132, 0x0136, 0x0133, 2⟩, ⟨0x0139, 0x0147, 0x013A, 2⟩,
   ⟨0x014A, 0x0176, 0x014B, 2⟩, ⟨0x0178, 0x0178, 0x00FF, 1⟩, ⟨0x0179, 0x017D, 0x017A, 2⟩,
   ⟨0x0181, 0x0181, 0x0253, 1⟩, ⟨0x0182, 0x0184, 0x0183, 2⟩, ⟨0x0186, 0x0186, 0x0254, 1⟩,
   ⟨0x0187, 0x0187, 0x0188, 1⟩, ⟨0x0189, 0x018A, 0x0256, 1⟩, ⟨0x018B, 0x018B, 0x018C, 1⟩,
   ⟨0x018E, 0x018E, 0x01DD, 1⟩, ⟨0x018F, 0x018F, 0x0259, 1⟩, ⟨0x0190, 0x0190, 0x025B, 1⟩,
   ⟨0x0191, 0x0191, 0x0192, 1⟩, ⟨0x0193, 0x0193, 0x0260, 1⟩, ⟨0x0194, 0x0194, 0x0263, 1⟩,
   ⟨0x0196, 0x0196, 0x0269, 1⟩, ⟨0x0197, 0x0197, 0x0268, 1⟩, ⟨0x0198, 0x0198, 0x0199, 1⟩,
   ⟨0x019C, 0x019C, 0x026F, 1⟩, ⟨0x019D, 0x019D, 0x0272, 1⟩, ⟨0x019F, 0x019F, 0x0275, 1⟩,
   ⟨0x01A0, 0x01A4, 0x01A1, 2⟩, ⟨0x01A6, 0x01A6, 0x0280, 1⟩, ⟨0x01A7, 0x01A7, 0x01A8, 1⟩,
   ⟨0x01A9, 0x01A9, 0x0283, 1⟩, ⟨0x01AC, 0x01AC, 0x01AD, 1⟩, ⟨0x01AE, 0x01AE, 0x0288, 1⟩,
   ⟨0x01AF, 0x01AF, 0x01B0, 1⟩, ⟨0x01B1, 0x01B2, 0x028A, 1⟩, ⟨0x01B3, 0x01B5, 0x01B4, 2⟩,
   ⟨0x01B7, 0x01B7, 0x0292, 1⟩, ⟨0x01B8, 0x01B8, 0x01B9, 1⟩, ⟨0x01BC, 0x01BC, 0x01BD, 1⟩,
   ⟨0x01C4, 0x01C4, 0x01C6, 1⟩, ⟨0x01C5, 0x01C5, 0x01C6, 1⟩, ⟨0x01C7, 0x01C7, 0x01C9, 1⟩,
   ⟨0x01C8, 0x01C8, 0x01C9, 1⟩, ⟨0x01CA, 0x01CA, 0x01CC, 1⟩, ⟨0x01CB, 0x01DB, 0x01CC, 2⟩,
   ⟨0x01DE, 0x01EE, 0x01DF, 2⟩, ⟨0x01F1, 0x01F1, 0x01F3, 1⟩, ⟨0x01F2, 0x01F4, 0x01F3, 2⟩,
   ⟨0x01F6, 0x01F6, 0x0195, 1⟩, ⟨0x01F7, 0x01F7, 0x01BF, 1⟩, ⟨0x01F8, 0x021E, 0x01F9, 2⟩,
   ⟨0x0220, 0x0220, 0x019E, 1⟩, ⟨0x0222, 0x0232, 0x0223, 2⟩, ⟨0x023A, 0x023A, 0x2C65, 1⟩,
   ⟨0x023B, 0x023B, 0x023C, 1⟩, ⟨0x023D, 0x023D, 0x019A, 1⟩, ⟨0x023E, 0x023E, 0x2C66, 1⟩,
   ⟨0x0241, 0x0241, 0x0242, 1⟩, ⟨0x0243, 0x0243, 0x0180, 1⟩, ⟨0x0244, 0x0244, 0x0289, 1⟩,
   ⟨0x0245, 0x0245, 0x028C, 1⟩, ⟨0x0246, 0x024E, 0x0247, 2⟩, ⟨0x0400, 0x040F, 0x0450, 1⟩,
   ⟨0x0410, 0x042F, 0x0430, 1⟩, ⟨0x0460, 0x0480, 0x0461, 2⟩, ⟨0x048A, 0x04BE, 0x048B, 2⟩,
   ⟨0x04C0, 0x04C0, 0x04CF, 1⟩, ⟨0x04C1, 0x04CD, 0x04C2, 2⟩, ⟨0x04D0, 0x052E, 0x04D1, 2⟩,
   ⟨0x1C89, 0x1C89, 0x1C8A, 1⟩, ⟨0x1E00, 0x1E94, 0x1E01, 2⟩, ⟨0x1E9E, 0x1E9E, 0x00DF, 1⟩,
   ⟨0x1EA0, 0x1EFE, 0x1EA1, 2⟩, ⟨0x212A, 0x212A, 0x006B, 1⟩, ⟨0x212B, 0x212B, 0x00E5, 1⟩,
   ⟨0x2132, 0x2132, 0x214E, 1⟩, ⟨0x2160, 0x216F, 0x2170, 1⟩, ⟨0x2183, 0x2183, 0x2184, 1⟩,
   ⟨0x2C60, 0x2C60, 0x2C61, 1⟩, ⟨0x2C62, 0x2C62, 0x026B, 1⟩, ⟨0x2C63, 0x2C63, 0x1D7D, 1⟩,
   ⟨0x2C64, 0x2C64, 0x027D, 1⟩, ⟨0x2C67, 0x2C6B, 0x2C68, 2⟩, ⟨0x2C6D, 0x2C6D, 0x0251, 1⟩,
   ⟨0x2C6E, 0x2C6E, 0x0271, 1⟩, ⟨0x2C6F, 0x2C6F, 0x0250, 1⟩, ⟨0x2C70, 0x2C70, 0x0252, 1⟩,
   ⟨0x2C72, 0x2C72, 0x2C73, 1⟩, ⟨0x2C75, 0x2C75, 0x2C76, 1⟩, ⟨0x2C7E, 0x2C7F, 0x023F, 1⟩,
   ⟨0xA640, 0xA66C, 0xA641, 2⟩, ⟨0xA680, 0xA69A, 0xA681, 2⟩, ⟨0xA722, 0xA72E, 0xA723, 2⟩,
   ⟨0xA732, 0xA76E, 0xA733, 2⟩, ⟨0xA779, 0xA77B, 0xA77A, 2⟩, ⟨0xA77D, 0xA77D, 0x1D79, 1⟩,
   ⟨0xA77E, 0xA786, 0xA77F, 2⟩, ⟨0xA78B, 0xA78B, 0xA78C, 1⟩, ⟨0xA78D, 0xA78D, 0x0265, 1⟩,
   ⟨0xA790, 0xA792, 0xA791, 2⟩, ⟨0xA796, 0xA7A8, 0xA797, 2⟩, ⟨0xA7AA, 0xA7AA, 0x0266, 1⟩,
   ⟨0xA7AB, 0xA7AB, 0x025C, 1⟩, ⟨0xA7AC, 0xA7AC, 0x0261, 1⟩, ⟨0xA7AD, 0xA7AD, 0x026C, 1⟩,
   ⟨0xA7AE, 0xA7AE, 0x026A, 1⟩, ⟨0xA7B0, 0xA7B0, 0x029E, 1⟩, ⟨0xA7B1, 0xA7B1, 0x0287, 1⟩,
   ⟨0xA7B2, 0xA7B2, 0x029D, 1⟩, ⟨0xA7B3, 0xA7B3, 0xAB53, 1⟩, ⟨0xA7B4, 0xA7C2, 0xA7B5, 2⟩,
   ⟨0xA7C4, 0xA7C4, 0xA794, 1⟩, ⟨0xA7C5, 0xA7C5, 0x0282, 1⟩, ⟨0xA7C6, 0xA7C6, 0x1D8E, 1⟩,
   ⟨0xA7C7, 0xA7C9, 0xA7C8, 2⟩, ⟨0xA7CB, 0xA7CB, 0x0264, 1⟩, ⟨0xA7CC, 0xA7CC, 0xA7CD, 1⟩,
   ⟨0xA7D0, 0xA7D0, 0xA7D1, 1⟩, ⟨0xA7D6, 0xA7DA, 0xA7D7, 2⟩, ⟨0xA7DC, 0xA7DC, 0x019B, 1⟩,
   ⟨0xA7F5, 0xA7F5, 0xA7F6, 1⟩, ⟨0xFF21, 0xFF3A, 0xFF41, 1⟩]

/-- The lower-case form of a character: one character, except for the dotted capital I. -/
def lowerChar (c : Char) : List Char :=
  if c = '\u0130' then ['i', '\u0307']
  else match caseRows.findSome? (·.lower? c.toNat) with
    | some n => [Char.ofNat n]
    | none => [c]

/-- The lower-case form of a text. -/
def lower (s : List Char) : List Char :=
  s.flatMap lowerChar

@[simp] theorem lower_nil : lower [] = [] := rfl

@[simp] theorem lower_cons (c : Char) (s : List Char) : lower (c :: s) = lowerChar c ++ lower s := rfl

@[simp] theorem lower_append (s t : List Char) : lower (s ++ t) = lower s ++ lower t := by
  simp [lower]

/-- Every character has a lower-case form of at least one character. -/
theorem lowerChar_ne_nil (c : Char) : lowerChar c ≠ [] := by
  unfold lowerChar
  split
  · simp
  · split <;> simp

end Concordance
