import Concordance.Markup.Cutout
import Concordance.Text.Blank
import Concordance.Text.WordCharacter

/-!
# The visible text of a page

Two passes lead from the source of a page to the text that a reader sees. The first blanks the
*hidden regions*: the elements `script`, `style` and `head` from their opening tag to the first
closing tag of the same name. The second blanks the *tags*: from a `<` to the first `>` after it,
whatever is between them. A blanked stretch leaves one space, so that the words on its two sides do
not run together.

A region needs its closing tag; an element that is never closed is not hidden, and only its tags
disappear. The names are read without regard to case, and the long s counts as a form of s.
-/

namespace Concordance

/-- The elements whose content is not shown. -/
inductive HiddenElement where
  | script
  | style
  | head
  deriving DecidableEq, Repr

/-- The name of a hidden element, in small letters. -/
def HiddenElement.name : HiddenElement → List Char
  | script => ['s', 'c', 'r', 'i', 'p', 't']
  | style => ['s', 't', 'y', 'l', 'e']
  | head => ['h', 'e', 'a', 'd']

/-- Is `c` a form of the small letter `l`: the letter itself, its capital, or the long s? -/
def isFormOf (c l : Char) : Bool :=
  c = l || c.toLower = l || (c = '\u017F' && l = 's')

/-- What follows the name that the text begins with, in whatever case. -/
def afterName? : List Char → List Char → Option (List Char)
  | [], s => some s
  | _ :: _, [] => none
  | l :: name, c :: s => if isFormOf c l then afterName? name s else none

/-- What follows the first `>`. -/
def afterBracket? : List Char → Option (List Char)
  | [] => none
  | c :: s => if c = '>' then some s else afterBracket? s

/-- What follows the opening tag of the element that the text begins with. A letter that continues
the name makes another name of it. -/
def afterOpening? (e : HiddenElement) : List Char → Option (List Char)
  | '<' :: s => do
    let s ← afterName? e.name s
    if (s.head?.map isWordChar).getD false then none else afterBracket? s
  | _ => none

/-- What follows the closing tag of the element that the text begins with. Blanks may stand between
the name and the bracket, and nothing else. -/
def afterClosing? (e : HiddenElement) : List Char → Option (List Char)
  | '<' :: '/' :: s => do
    let s ← afterName? e.name s
    match s.dropWhile isBlank with
    | '>' :: s => some s
    | _ => none
  | _ => none

/-- What follows the first closing tag of the element. -/
def afterFirstClosing? (e : HiddenElement) : List Char → Option (List Char)
  | [] => none
  | c :: s =>
    match afterClosing? e (c :: s) with
    | some r => some r
    | none => afterFirstClosing? e s

/-- What follows the hidden region that the text begins with. -/
def afterRegion? (s : List Char) : Option (List Char) :=
  [HiddenElement.script, .style, .head].findSome? fun e ↦
    (afterOpening? e s).bind (afterFirstClosing? e)

/-- What follows the tag that the text begins with. -/
def afterTag? : List Char → Option (List Char)
  | '<' :: s => afterBracket? s
  | _ => none

/-! ### What follows is shorter -/

theorem length_le_of_afterName? {name s r : List Char} (h : afterName? name s = some r) :
    r.length ≤ s.length := by
  fun_induction afterName? name s with
  | case1 => simp_all
  | case2 => simp at h
  | case3 l name c s hc ih => simpa using Nat.le_succ_of_le (ih h)
  | case4 => simp at h

/-- A bracket that was found is no part of what follows it. -/
theorem length_lt_of_afterBracket? {s r : List Char} (h : afterBracket? s = some r) :
    r.length < s.length := by
  fun_induction afterBracket? s with
  | case1 => simp at h
  | case2 => simp_all
  | case3 c s hc ih => simpa using Nat.lt_succ_of_lt (ih h)

theorem length_lt_of_afterOpening? {e : HiddenElement} {s r : List Char}
    (h : afterOpening? e s = some r) : r.length < s.length := by
  unfold afterOpening? at h
  split at h
  · next s =>
    obtain ⟨t, ht, h⟩ := Option.bind_eq_some_iff.1 h
    split at h
    · cases h
    · have h₁ := length_le_of_afterName? ht
      have h₂ := length_lt_of_afterBracket? h
      simp only [List.length_cons]
      omega
  · cases h

theorem length_lt_of_afterClosing? {e : HiddenElement} {s r : List Char}
    (h : afterClosing? e s = some r) : r.length < s.length := by
  unfold afterClosing? at h
  split at h
  · next s =>
    obtain ⟨t, ht, h⟩ := Option.bind_eq_some_iff.1 h
    split at h
    · next u hu =>
      cases h
      have h₁ := length_le_of_afterName? ht
      have h₂ := (List.dropWhile_sublist isBlank (l := t)).length_le
      rw [hu] at h₂
      simp only [List.length_cons] at h₂ ⊢
      omega
    · cases h
  · cases h

/-- So cutting a region out of a text comes to an end. -/
theorem length_lt_of_afterFirstClosing? {e : HiddenElement} {s r : List Char}
    (h : afterFirstClosing? e s = some r) : r.length < s.length := by
  fun_induction afterFirstClosing? e s with
  | case1 => simp at h
  | case2 c s r' hr => cases h; exact length_lt_of_afterClosing? hr
  | case3 c s _ ih => simpa using Nat.lt_succ_of_lt (ih h)

/-! ### The two passes -/

/-- Hidden regions as cut-outs. -/
def regionCutout : Cutout where
  rest? := afterRegion?
  shorter h := by
    obtain ⟨e, -, h⟩ := List.exists_of_findSome?_eq_some h
    obtain ⟨t, ht, h⟩ := Option.bind_eq_some_iff.1 h
    exact Nat.lt_trans (length_lt_of_afterFirstClosing? h) (length_lt_of_afterOpening? ht)

/-- Tags as cut-outs. -/
def tagCutout : Cutout where
  rest? := afterTag?
  shorter h := by
    unfold afterTag? at h
    split at h
    · simpa using Nat.lt_succ_of_lt (length_lt_of_afterBracket? h)
    · cases h

/-- The visible characters of a page's source. -/
def visibleChars (s : List Char) : List Char :=
  tagCutout.blank (regionCutout.blank s)

/-- The visible text of a page's source. -/
def visibleText (s : String) : String :=
  String.ofList (visibleChars s.toList)

end Concordance
