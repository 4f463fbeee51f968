import Concordance.Index.Listing
import Concordance.Proofs.Blank
import Concordance.Proofs.Decimal
import Concordance.Query.Fault
import Concordance.Session

/-!
# Texts on a single line

Numbers have no line breaks in them, in whatever base they are spelled, and neither have lists of
identifiers. A quotation has none whatever it quotes (`newline_not_mem_quoted`), since a line break is
among the characters that have a spelling of their own. So the message of a rejected query stays on
one line, though it repeats pieces of the query. The name of a command is repeated as it stands, but
it comes from a single line.
-/

namespace Concordance

/-! ### Numbers -/

/-- The digits of a number are no line breaks, by induction on its quotients. -/
theorem newline_not_mem_toDigits {b : Nat} (hb : 1 < b) (n : Nat) : '\n' ∉ Nat.toDigits b n := by
  have hdigit (d : Nat) : '\n' ≠ d.digitChar := (Nat.digitChar_ne '\n' (by decide)).symm
  induction n using Nat.strongRecOn with
  | ind n ih =>
    rw [Nat.toDigits_eq_if hb]
    split
    next => simp [hdigit n]
    next hle =>
      have hlt : n / b < n := Nat.div_lt_self (by omega) hb
      rw [List.mem_append, List.mem_singleton]
      exact not_or.2 ⟨ih _ hlt, hdigit _⟩

theorem newline_not_mem_toString (n : Nat) : '\n' ∉ (toString n).toList := by
  rw [Nat.toString_eq_ofList_toDigits, String.toList_ofList]
  exact newline_not_mem_toDigits (by decide) n

theorem DocId.newline_not_mem_text (id : DocId) : '\n' ∉ id.text.toList := by
  rw [toList_text]
  exact newline_not_mem_toDigits (by decide) id.toNat

/-! ### Texts put together -/

theorem newline_not_mem_append {a b : String} (ha : '\n' ∉ a.toList) (hb : '\n' ∉ b.toList) :
    '\n' ∉ (a ++ b).toList := by
  rw [String.toList_append, List.mem_append]
  exact not_or.2 ⟨ha, hb⟩

/-- A list without line breaks in its items and in what separates them has none. -/
theorem newline_not_mem_intercalate {sep : String} (hsep : '\n' ∉ sep.toList) {l : List String}
    (hl : ∀ a ∈ l, '\n' ∉ a.toList) : '\n' ∉ (sep.intercalate l).toList := by
  induction l with
  | nil => simp
  | cons a l ih =>
    have ha := hl a List.mem_cons_self
    cases l with
    | nil => simpa using ha
    | cons b l =>
      have hrest := ih fun c hc ↦ hl c (List.mem_cons_of_mem a hc)
      rw [String.intercalate_cons_cons]
      exact newline_not_mem_append (newline_not_mem_append ha hsep) hrest

/-- Identifiers are listed on one line, however many they are. -/
theorem newline_not_mem_listIds (ids : List DocId) : '\n' ∉ (listIds ids).toList := by
  have hids : '\n' ∉ (", ".intercalate (ids.map DocId.text)).toList := by
    refine newline_not_mem_intercalate (by decide) fun a ha ↦ ?_
    obtain ⟨id, -, rfl⟩ := List.mem_map.1 ha
    exact id.newline_not_mem_text
  rw [listIds]
  exact newline_not_mem_append (newline_not_mem_append (by decide) hids) (by decide)

/-! ### Quotations -/

/-- A line break is spelled as a backslash and a letter. -/
theorem newline_not_mem_quotedChar (c : Char) : '\n' ∉ quotedChar c := by
  unfold quotedChar
  split
  · decide
  · split
    · decide
    · split
      · decide
      · split
        · decide
        next hc =>
          split
          next => simp [Ne.symm hc]
          · split
            · simpa using Ne.symm hc
            · simpa using newline_not_mem_toDigits (by decide) c.toNat

/-- **A quotation has no line breaks**, whatever it quotes. -/
theorem newline_not_mem_quoted (s : String) : '\n' ∉ (quoted s).toList := by
  rw [quoted, String.toList_ofList, quotedChars]
  simp [newline_not_mem_quotedChar]

/-- **The message of a rejected query has no line breaks.** -/
theorem QueryFault.newline_not_mem_message (e : QueryFault) : '\n' ∉ e.message.toList := by
  -- every message is made of fixed texts and quotations, in turn
  have hbefore {a s : String} (ha : '\n' ∉ a.toList) : '\n' ∉ (a ++ quoted s).toList :=
    newline_not_mem_append ha (newline_not_mem_quoted s)
  cases e with
  | empty => decide
  | leadingOperator o => exact newline_not_mem_append (hbefore (by decide)) (by decide)
  | trailingOperator o => exact newline_not_mem_append (hbefore (by decide)) (by decide)
  | consecutiveOperators a b =>
    exact hbefore (newline_not_mem_append (hbefore (by decide)) (by decide))
  | missingOperator l r => exact hbefore (newline_not_mem_append (hbefore (by decide)) (by decide))
  | emptyNegation t => exact newline_not_mem_append (hbefore (by decide)) (by decide)
  | doubleNegation t => exact newline_not_mem_append (hbefore (by decide)) (by decide)
  | noIndexableText w => exact newline_not_mem_append (newline_not_mem_quoted w) (by decide)

/-! ### Lines of a session -/

/-- The name of a command comes from its line. -/
theorem SessionLine.newline_not_mem_of_command {line name : String} (hline : '\n' ∉ line.toList)
    (h : ofText line = .command name) : '\n' ∉ name.toList := by
  unfold ofText at h
  split at h
  next l htrim =>
    have hname : name = String.ofList (trim l) := (SessionLine.command.inj h).symm
    rw [hname, String.toList_ofList]
    intro hmem
    refine hline (mem_of_mem_trim ?_)
    rw [htrim]
    exact List.mem_cons_of_mem _ (mem_of_mem_trim hmem)
  next => cases h

end Concordance
