import Concordance.Proofs.Json.Completeness
import Concordance.Proofs.Json.Literal

/-!
# What is written is read back

What is written for a value is spelled by the grammar (`isSpelled`), and whatever the grammar spells
is read; so a value that was written is read back. Its literals are read as they were written, which
`raw` says of the whole value.
-/

namespace Concordance.Json

/-! ### What is read -/

mutual

/-- A value as it is read when it was written. -/
def raw : Json Nat String → RawJson
  | .null => .null
  | .bool b => .bool b
  | .number n => .number (natural n)
  | .text t => .text (utf8 (escape t.toList))
  | .array items => .array (rawItems items)
  | .object members => .object (rawMembers members)
  termination_by structural v => v

/-- The items of an array as they are read. -/
def rawItems : List (Json Nat String) → List RawJson
  | [] => []
  | v :: items => raw v :: rawItems items
  termination_by structural items => items

/-- The members of an object as they are read. -/
def rawMembers : List (String × Json Nat String) → List (Octets × RawJson)
  | [] => []
  | m :: members => rawMember m :: rawMembers members
  termination_by structural members => members

/-- A member as it is read. -/
def rawMember : String × Json Nat String → Octets × RawJson
  | (k, v) => (utf8 (escape k.toList), raw v)
  termination_by structural m => m

end

theorem rawItems_eq (items : List (Json Nat String)) : rawItems items = items.map raw := by
  induction items with
  | nil => rfl
  | cons v items ih => rw [rawItems, ih, List.map_cons]

theorem rawMembers_eq (members : List (String × Json Nat String)) :
    rawMembers members = members.map fun m ↦ (utf8 (escape m.1.toList), raw m.2) := by
  induction members with
  | nil => rfl
  | cons m members ih => rw [rawMembers, ih, List.map_cons, rawMember]

/-! ### Literals -/

/-- Octets that need no escape may stand in a text in any order. -/
theorem isText_of_plain {os : Octets} (h : ∀ o ∈ os, o ≠ 0x22 ∧ o ≠ 0x5C ∧ 0x20 ≤ o) :
    IsText os := by
  induction os with
  | nil => exact .nil
  | cons o os ih =>
    obtain ⟨⟨hquote, hslash, hcontrol⟩, hos⟩ := List.forall_mem_cons.1 h
    exact .plain hquote hslash hcontrol (ih hos)

/-- However a character is written, it may stand in a text. -/
theorem Written.isText {c : Char} {os : Octets} (h : Written c os) : IsText os := by
  cases h with
  | plain h => exact isText_of_plain h
  | short h => exact .short (isSome_shortEscape?_iff.1 (Option.isSome_iff_exists.2 ⟨c, h⟩)) .nil
  | unit h =>
    -- The code unit has a value, so each of its four octets is a hexadecimal digit.
    rw [codeUnit?] at h
    obtain ⟨a, ha, h⟩ := Option.bind_eq_some_iff.1 h
    obtain ⟨b, hb, h⟩ := Option.bind_eq_some_iff.1 h
    obtain ⟨c, hc, h⟩ := Option.bind_eq_some_iff.1 h
    obtain ⟨d, hd, -⟩ := Option.bind_eq_some_iff.1 h
    have hdigit {o : UInt8} {n : Nat} (ho : hexDigit? o = some n) : IsHexDigit o :=
      isSome_hexDigit?_iff.1 (Option.isSome_iff_exists.2 ⟨n, ho⟩)
    exact .unit (hdigit ha) (hdigit hb) (hdigit hc) (hdigit hd) .nil

/-- A text that was escaped may stand between quotation marks. -/
theorem isText_escape (s : List Char) : IsText (utf8 (escape s)) := by
  induction s with
  | nil => exact .nil
  | cons c s ih =>
    rw [escape_cons, utf8_append]
    exact (written_escapeChar c).isText.append ih

theorem isDigit_digit {d : Nat} (h : d < 10) : IsDigit (digit d) :=
  isSome_digit?_iff.1 (Option.isSome_iff_exists.2 ⟨d, digit?_digit h⟩)

theorem allDigits_natural (n : Nat) : AllDigits (natural n) := by
  have hdigit {d : Nat} (h : d < 10) : AllDigits [digit d] :=
    List.forall_mem_singleton.2 (isDigit_digit h)
  induction n using Nat.strongRecOn with
  | ind n ih =>
    by_cases h : n < 10
    · rw [natural_of_lt h]
      exact hdigit h
    · rw [natural_of_le (Nat.not_lt.1 h)]
      exact (ih (n / 10) (by omega)).append (hdigit (Nat.mod_lt n (by decide)))

/-- A natural number is written without a leading zero. -/
theorem isInteger_natural (n : Nat) : IsInteger (natural n) := by
  by_cases h : n = 0
  · subst h
    exact .zero
  · obtain ⟨d, rest, hnatural, hd, hne⟩ := exists_natural_eq n
    have hdigits := allDigits_natural n
    rw [hnatural] at hdigits ⊢
    obtain ⟨hfirst, hrest⟩ := List.forall_mem_cons.1 hdigits
    exact .digits hfirst (digit_ne_zero hd (hne h)) hrest

/-! ### Texts and containers -/

/-- A text is written between quotation marks, which are no part of what is escaped. -/
theorem utf8_writeText (t : String) :
    utf8 (writeText t) = 0x22 :: (utf8 (escape t.toList) ++ [0x22]) := by
  rw [writeText, List.cons_append, utf8_cons, utf8_append]
  rfl

/-- The name of a member is written without blanks. -/
theorem spellsName_writeText (k : String) :
    SpellsName (utf8 (escape k.toList)) (utf8 (writeText k) ++ [0x3A]) := by
  have hname := SpellsName.mk isBlank_nil (isText_escape k.toList) isBlank_nil
  rw [utf8_writeText, List.cons_append, List.append_assoc]
  exact hname

/-- What is written for the value is spelled by the grammar. -/
def IsSpelled (v : Json Nat String) : Prop := Spells (raw v) (utf8 (write v))

/-- Nothing around a value is as good as blanks. -/
theorem IsSpelled.document {v : Json Nat String} (h : IsSpelled v) :
    Document (raw v) (utf8 (write v)) := by
  have hdocument := Document.mk isBlank_nil h isBlank_nil
  rwa [List.nil_append, List.append_nil] at hdocument

private theorem utf8_comma (s : List Char) : utf8 (',' :: s) = 0x2C :: utf8 s := rfl

/-- The items of an array are written with commas between them, if there are any. -/
theorem spellsItems_raw {items : List (Json Nat String)} (hne : items ≠ [])
    (h : ∀ v ∈ items, IsSpelled v) : SpellsItems (rawItems items) (utf8 (writeItems items)) := by
  induction items with
  | nil => exact absurd rfl hne
  | cons v items ih =>
    obtain ⟨hv, hitems⟩ := List.forall_mem_cons.1 h
    cases items with
    | nil => exact .last hv.document
    | cons w items =>
      rw [writeItems, utf8_append, utf8_comma]
      exact .cons hv.document (ih (by simp) hitems)

/-- And so are the members of an object. -/
theorem spellsMembers_raw {members : List (String × Json Nat String)} (hne : members ≠ [])
    (h : ∀ m ∈ members, IsSpelled m.2) :
    SpellsMembers (rawMembers members) (utf8 (writeMembers members)) := by
  induction members with
  | nil => exact absurd rfl hne
  | cons m members ih =>
    obtain ⟨k, v⟩ := m
    obtain ⟨hv, hmembers⟩ := List.forall_mem_cons.1 h
    have hmember : utf8 (writeMember (k, v)) =
        utf8 (writeText k) ++ [0x3A] ++ utf8 (write v) := by
      rw [writeMember, utf8_append, List.append_assoc]
      rfl
    cases members with
    | nil =>
      rw [writeMembers, hmember]
      exact .last (spellsName_writeText k) hv.document
    | cons n members =>
      rw [writeMembers, utf8_append, utf8_comma, hmember]
      exact .cons (spellsName_writeText k) hv.document (ih (by simp) hmembers)

theorem utf8_write_array (items : List (Json Nat String)) :
    utf8 (write (.array items)) = 0x5B :: (utf8 (writeItems items) ++ [0x5D]) := by
  rw [write, List.cons_append, utf8_cons, utf8_append]
  rfl

theorem utf8_write_object (members : List (String × Json Nat String)) :
    utf8 (write (.object members)) = 0x7B :: (utf8 (writeMembers members) ++ [0x7D]) := by
  rw [write, List.cons_append, utf8_cons, utf8_append]
  rfl

/-- What is written for an array is spelled by the grammar if that of its items is. An empty array
has a rule of its own there. -/
theorem isSpelled_array {items : List (Json Nat String)} (h : ∀ v ∈ items, IsSpelled v) :
    IsSpelled (.array items) := by
  rw [IsSpelled, utf8_write_array, raw]
  cases items with
  | nil => exact .emptyArray isBlank_nil
  | cons v items => exact .array (spellsItems_raw (List.cons_ne_nil v items) h)

/-- The same of an object and the values of its members. -/
theorem isSpelled_object {members : List (String × Json Nat String)}
    (h : ∀ m ∈ members, IsSpelled m.2) : IsSpelled (.object members) := by
  rw [IsSpelled, utf8_write_object, raw]
  cases members with
  | nil => exact .emptyObject isBlank_nil
  | cons m members => exact .object (spellsMembers_raw (List.cons_ne_nil m members) h)

/-! ### Whole documents -/

mutual

/-- **What is written for a value is spelled by the grammar.** -/
theorem isSpelled : (v : Json Nat String) → IsSpelled v
  | .null => Spells.null
  | .bool true => Spells.truth
  | .bool false => Spells.falsehood
  | .number n => Spells.number (.decimal (.integer (.positive (isInteger_natural n))))
  | .text t => by
    rw [IsSpelled, write, utf8_writeText, raw]
    exact .text (isText_escape t.toList)
  | .array items => isSpelled_array (isSpelled_items items)
  | .object members => isSpelled_object (isSpelled_members members)
  termination_by structural v => v

theorem isSpelled_items : (items : List (Json Nat String)) → ∀ v ∈ items, IsSpelled v
  | [] => fun _ h ↦ absurd h List.not_mem_nil
  | v :: items => List.forall_mem_cons.2 ⟨isSpelled v, isSpelled_items items⟩
  termination_by structural items => items

theorem isSpelled_members :
    (members : List (String × Json Nat String)) → ∀ m ∈ members, IsSpelled m.2
  | [] => fun _ h ↦ absurd h List.not_mem_nil
  | m :: members => List.forall_mem_cons.2 ⟨isSpelled_member m, isSpelled_members members⟩
  termination_by structural members => members

theorem isSpelled_member : (m : String × Json Nat String) → IsSpelled m.2
  | (_, v) => isSpelled v
  termination_by structural m => m

end

/-- **What is written is a document, with blanks behind it or without.** -/
theorem document_toText_append (v : Json Nat String) {s : Octets} (hs : IsBlank s) :
    Document (raw v) (octetsOf v.toText ++ s) := by
  have hdocument := Document.mk isBlank_nil (isSpelled v) hs
  rw [octetsOf, toText, String.toList_ofList]
  exact hdocument

/-- **A document that was written is read back.** -/
theorem read?_toText (v : Json Nat String) : read? (octetsOf v.toText) = some (raw v) := by
  have hdocument := document_toText_append v isBlank_nil
  rw [List.append_nil] at hdocument
  exact read?_of_document hdocument

/-- A line break behind a document does not count. -/
theorem read?_toText_newline (v : Json Nat String) :
    read? (octetsOf (v.toText ++ "\n")) = some (raw v) := by
  have hoctets : octetsOf (v.toText ++ "\n") = octetsOf v.toText ++ [0x0A] := by
    rw [octetsOf, String.toList_append, utf8_append]
    rfl
  rw [hoctets]
  exact read?_of_document (document_toText_append v (List.forall_mem_singleton.2 rfl))

end Concordance.Json
