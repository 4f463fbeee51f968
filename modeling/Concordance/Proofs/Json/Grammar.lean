import Concordance.Json.Reading

/-!
# The grammar of JSON

A declarative account of JSON over octets, which knows nothing of the machine that reads it. A value
is spelled without blanks around it (`Spells`), and a document is a value with blanks around it
(`Document`). What stands in a container, as an item or as the value of a member, is one again.

Literals are kept as they are written, as in the values that are read. So the grammar says which
octets are the inside of a text (`IsText`) or a number (`IsNumber`), and leaves open what they mean.
Octets beyond ASCII may stand in a text in any order; that they are characters matters to whoever
asks for the text.
-/

namespace Concordance.Json

/-! ### Octets -/

/-- Blanks between the parts of a document. -/
def IsBlank (s : Octets) : Prop := ∀ o ∈ s, isSpace o = true

/-- The octet is a decimal digit. -/
def IsDigit (o : UInt8) : Prop := 0x30 ≤ o ∧ o ≤ 0x39

/-- The octet is a hexadecimal digit, in either case. -/
def IsHexDigit (o : UInt8) : Prop := IsDigit o ∨ (0x41 ≤ o ∧ o ≤ 0x46) ∨ (0x61 ≤ o ∧ o ≤ 0x66)

/-- The octet is a letter or a sign that may follow a backslash: one of `"`, `\`, `/`, `b`, `f`,
`n`, `r` and `t`. -/
def IsShortEscape (o : UInt8) : Prop := o ∈ [0x22, 0x5C, 0x2F, 0x62, 0x66, 0x6E, 0x72, 0x74]

instance (o : UInt8) : Decidable (IsDigit o) := inferInstanceAs (Decidable (_ ∧ _))

instance (o : UInt8) : Decidable (IsHexDigit o) := inferInstanceAs (Decidable (_ ∨ _))

instance (o : UInt8) : Decidable (IsShortEscape o) := inferInstanceAs (Decidable (_ ∈ _))

/-- Every octet is a decimal digit. -/
def AllDigits (s : Octets) : Prop := ∀ o ∈ s, IsDigit o

/-! ### Literals -/

/-- The inside of a text: characters other than quotation marks, backslashes and controls, and
escapes. -/
inductive IsText : Octets → Prop where
  /-- Nothing. -/
  | nil : IsText []
  /-- An octet that stands for itself. -/
  | plain {o : UInt8} {s : Octets} (hquote : o ≠ 0x22) (hslash : o ≠ 0x5C) (hcontrol : 0x20 ≤ o)
      (hs : IsText s) : IsText (o :: s)
  /-- A backslash and a letter. -/
  | short {o : UInt8} {s : Octets} (ho : IsShortEscape o) (hs : IsText s) : IsText (0x5C :: o :: s)
  /-- A backslash, the letter `u` and four hexadecimal digits. -/
  | unit {a b c d : UInt8} {s : Octets} (ha : IsHexDigit a) (hb : IsHexDigit b)
      (hc : IsHexDigit c) (hd : IsHexDigit d) (hs : IsText s) :
      IsText (0x5C :: 0x75 :: a :: b :: c :: d :: s)

/-- The digits before a point. A zero does not lead unless it stands alone. -/
inductive IsInteger : Octets → Prop where
  /-- Zero. -/
  | zero : IsInteger [0x30]
  /-- Any other number. -/
  | digits {o : UInt8} {s : Octets} (ho : IsDigit o) (hne : o ≠ 0x30) (hs : AllDigits s) :
      IsInteger (o :: s)

/-- Digits before a point, perhaps behind a minus sign. -/
inductive IsSigned : Octets → Prop where
  /-- Without a sign. -/
  | positive {s : Octets} (hs : IsInteger s) : IsSigned s
  /-- Behind a minus sign. -/
  | negative {s : Octets} (hs : IsInteger s) : IsSigned (0x2D :: s)

/-- A number without an exponent. -/
inductive IsDecimal : Octets → Prop where
  /-- Without a fraction. -/
  | integer {s : Octets} (hs : IsSigned s) : IsDecimal s
  /-- With a point and at least one digit behind it. -/
  | fraction {s t : Octets} (hs : IsSigned s) (hne : t ≠ []) (ht : AllDigits t) :
      IsDecimal (s ++ 0x2E :: t)

/-- The letter of an exponent, with or without a sign behind it. -/
inductive IsExponentMark : Octets → Prop where
  /-- Without a sign. -/
  | plain {e : UInt8} (he : e = 0x65 ∨ e = 0x45) : IsExponentMark [e]
  /-- With a sign. -/
  | signed {e o : UInt8} (he : e = 0x65 ∨ e = 0x45) (ho : o = 0x2B ∨ o = 0x2D) :
      IsExponentMark [e, o]

/-- A number. -/
inductive IsNumber : Octets → Prop where
  /-- Without an exponent. -/
  | decimal {s : Octets} (hs : IsDecimal s) : IsNumber s
  /-- With an exponent of at least one digit. -/
  | exponent {s m t : Octets} (hs : IsDecimal s) (hm : IsExponentMark m) (hne : t ≠ [])
      (ht : AllDigits t) : IsNumber (s ++ m ++ t)

/-! ### Values -/

/-- The octets spell the name of a member: a text with blanks around it, and a colon. -/
inductive SpellsName : Octets → Octets → Prop where
  /-- The text, between quotation marks. -/
  | mk {b k a : Octets} (hb : IsBlank b) (hk : IsText k) (ha : IsBlank a) :
      SpellsName k (b ++ 0x22 :: (k ++ 0x22 :: (a ++ [0x3A])))

mutual

/-- The octets spell the value, without blanks around it. -/
inductive Spells : RawJson → Octets → Prop where
  /-- The word for nothing. -/
  | null : Spells .null [0x6E, 0x75, 0x6C, 0x6C]
  /-- The word for truth. -/
  | truth : Spells (.bool true) [0x74, 0x72, 0x75, 0x65]
  /-- The word for falsehood. -/
  | falsehood : Spells (.bool false) [0x66, 0x61, 0x6C, 0x73, 0x65]
  /-- A number. -/
  | number {l : Octets} (hl : IsNumber l) : Spells (.number l) l
  /-- A text between quotation marks. -/
  | text {l : Octets} (hl : IsText l) : Spells (.text l) (0x22 :: (l ++ [0x22]))
  /-- Square brackets around blanks. -/
  | emptyArray {b : Octets} (hb : IsBlank b) : Spells (.array []) (0x5B :: (b ++ [0x5D]))
  /-- Square brackets around items. -/
  | array {items : List RawJson} {s : Octets} (hs : SpellsItems items s) :
      Spells (.array items) (0x5B :: (s ++ [0x5D]))
  /-- Curly brackets around blanks. -/
  | emptyObject {b : Octets} (hb : IsBlank b) : Spells (.object []) (0x7B :: (b ++ [0x7D]))
  /-- Curly brackets around members. -/
  | object {members : List (Octets × RawJson)} {s : Octets} (hs : SpellsMembers members s) :
      Spells (.object members) (0x7B :: (s ++ [0x7D]))

/-- The octets are a document with the given value: they spell it with blanks around it. -/
inductive Document : RawJson → Octets → Prop where
  /-- Blanks, the value and blanks. -/
  | mk {v : RawJson} {b s a : Octets} (hb : IsBlank b) (hs : Spells v s) (ha : IsBlank a) :
      Document v (b ++ s ++ a)

/-- The octets spell one or more items with commas between them. Each item is a document. -/
inductive SpellsItems : List RawJson → Octets → Prop where
  /-- The last item. -/
  | last {v : RawJson} {s : Octets} (hs : Document v s) : SpellsItems [v] s
  /-- An item before others. -/
  | cons {v : RawJson} {items : List RawJson} {s t : Octets} (hs : Document v s)
      (ht : SpellsItems items t) : SpellsItems (v :: items) (s ++ 0x2C :: t)

/-- The octets spell one or more members with commas between them. A member is a name and a
document. -/
inductive SpellsMembers : List (Octets × RawJson) → Octets → Prop where
  /-- The last member. -/
  | last {k : Octets} {v : RawJson} {n s : Octets} (hn : SpellsName k n) (hs : Document v s) :
      SpellsMembers [(k, v)] (n ++ s)
  /-- A member before others. -/
  | cons {k : Octets} {v : RawJson} {members : List (Octets × RawJson)} {n s t : Octets}
      (hn : SpellsName k n) (hs : Document v s) (ht : SpellsMembers members t) :
      SpellsMembers ((k, v) :: members) (n ++ s ++ 0x2C :: t)

end

/-! ### Parts put together -/

theorem isBlank_nil : IsBlank [] := List.forall_mem_nil _

theorem IsBlank.append {s t : Octets} (hs : IsBlank s) (ht : IsBlank t) : IsBlank (s ++ t) :=
  List.forall_mem_append.2 ⟨hs, ht⟩

theorem IsBlank.concat {s : Octets} (hs : IsBlank s) {o : UInt8} (ho : isSpace o = true) :
    IsBlank (s ++ [o]) :=
  hs.append (by simpa [IsBlank] using ho)

theorem allDigits_nil : AllDigits [] := List.forall_mem_nil _

theorem AllDigits.append {s t : Octets} (hs : AllDigits s) (ht : AllDigits t) :
    AllDigits (s ++ t) :=
  List.forall_mem_append.2 ⟨hs, ht⟩

/-- The inside of a text may be followed by more of it, for an escape is never left open. -/
theorem IsText.append {s t : Octets} (hs : IsText s) (ht : IsText t) : IsText (s ++ t) := by
  induction hs with
  | nil => exact ht
  | plain hquote hslash hcontrol _ ih => exact .plain hquote hslash hcontrol ih
  | short ho _ ih => exact .short ho ih
  | unit ha hb hc hd _ ih => exact .unit ha hb hc hd ih

end Concordance.Json
