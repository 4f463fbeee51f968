/-!
# Replacing cut-outs by a space

A *cut-out* is a kind of stretch that a text may begin with: given a text that begins with one, it
says what follows. Scanning from the left, `Cutout.blank` replaces each stretch it meets by one
space and goes on behind it; what follows is never joined to what came before.

The one law that a cut-out carries is that a stretch is not empty. It makes the scan end, and it is
all that the scan needs to know about the kind of stretch.
-/

namespace Concordance

/-- A kind of stretch that a text may begin with. -/
structure Cutout where
  /-- What follows the stretch that the text begins with, if it begins with one. -/
  rest? : List Char → Option (List Char)
  /-- A stretch is not empty. -/
  shorter : ∀ {s r : List Char}, rest? s = some r → r.length < s.length

namespace Cutout

/-- The text with each stretch of the kind `k`, from the left and without overlap, replaced by one
space. -/
def blank (k : Cutout) : List Char → List Char
  | [] => []
  | c :: s =>
    match _h : k.rest? (c :: s) with
    | some r => ' ' :: blank k r
    | none => c :: blank k s
  termination_by s => s.length
  decreasing_by
    · exact k.shorter _h
    · simp

variable {k : Cutout}

@[simp] theorem blank_nil : k.blank [] = [] := by
  rw [blank]

theorem blank_cons_of_eq_some {c : Char} {s r : List Char} (h : k.rest? (c :: s) = some r) :
    k.blank (c :: s) = ' ' :: k.blank r := by
  rw [blank]
  split
  · next r' h' => rw [h] at h'; cases h'; rfl
  · next h' => rw [h] at h'; cases h'

theorem blank_cons_of_eq_none {c : Char} {s : List Char} (h : k.rest? (c :: s) = none) :
    k.blank (c :: s) = c :: k.blank s := by
  rw [blank]
  split
  · next r' h' => rw [h] at h'; cases h'
  · rfl

end Cutout

end Concordance
