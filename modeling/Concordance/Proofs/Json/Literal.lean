import Concordance.Json.Writing
import Concordance.Proofs.Octets

/-!
# Literals are read back

A character stands inside a text literal in one of three ways: as its own octets, as a backslash and
a letter, or as a code unit in hexadecimal digits. `Written` says which octets are one of these for
a character. What is written for a character is one of them (`written_escapeChar`), and any of them
is read as that character (`unescape?_append_of_written`); so a text that was escaped is read back
(`textLiteral?_escape`).

Numbers are written in decimal without leading zeros, which is what the reader asks for
(`naturalLiteral?_natural`).
-/

namespace Concordance

namespace Json

/-! ### Text literals -/

/-- The ways in which a character may stand inside a text literal. -/
inductive Written (c : Char) : Octets → Prop where
  /-- As its own octets. -/
  | plain (h : ∀ o ∈ String.utf8EncodeChar c, o ≠ 0x22 ∧ o ≠ 0x5C ∧ 0x20 ≤ o) :
      Written c (String.utf8EncodeChar c)
  /-- As a backslash and a letter. -/
  | short {o : UInt8} (h : shortEscape? o = some c) : Written c [0x5C, o]
  /-- As a code unit. -/
  | unit {x y z w : UInt8} (h : codeUnit? x y z w = some c.toNat) :
      Written c [0x5C, 0x75, x, y, z, w]

theorem unescape?_cons {o : UInt8} (h : o ≠ 0x5C) (rest : Octets) :
    unescape? (o :: rest) = (unescape? rest).map (o :: ·) := by
  rw [unescape?]
  · rw [if_neg h]
    cases unescape? rest <;> rfl
  · intro a b c d r ho
    exact absurd ho h
  · intro e r ho
    exact absurd ho h

/-- Octets that are no backslashes are read as they stand, whatever follows. -/
theorem unescape?_append_of_plain {os : Octets} (h : ∀ o ∈ os, o ≠ 0x5C) (rest : Octets) :
    unescape? (os ++ rest) = (unescape? rest).map (os ++ ·) := by
  induction os with
  | nil => simp
  | cons o os ih =>
    rw [List.forall_mem_cons] at h
    rw [List.cons_append, unescape?_cons h.1, ih h.2, Option.map_map]
    rfl

/-- A backslash and a letter are read as the character of the letter. -/
theorem unescape?_short {o : UInt8} {c : Char} (h : shortEscape? o = some c) (rest : Octets) :
    unescape? (0x5C :: o :: rest) = (unescape? rest).map (String.utf8EncodeChar c ++ ·) := by
  have ho : o ≠ 0x75 := by
    rintro rfl
    cases h
  rw [unescape?]
  · rw [h]
    cases unescape? rest <;> rfl
  · intro a b c' d r ho'
    cases ho'
    exact absurd rfl ho

/-- A code unit is read as its character. That it is the number of a character excludes the
surrogates. -/
theorem unescape?_unit {x y z w : UInt8} {c : Char} (h : codeUnit? x y z w = some c.toNat)
    (rest : Octets) :
    unescape? (0x5C :: 0x75 :: x :: y :: z :: w :: rest) =
      (unescape? rest).map (String.utf8EncodeChar c ++ ·) := by
  -- A character is no surrogate.
  have hvalid : c.toNat < 0xD800 ∨ 0xE000 ≤ c.toNat := by
    rcases c.valid with h | h
    · exact .inl h
    · exact .inr h.1
  have hpoint : codePoint c.toNat = String.utf8EncodeChar c := by
    rw [codePoint, Char.ofNat_toNat]
  rw [unescape?, h]
  simp only [Option.bind_eq_bind, Option.bind_some]
  rw [if_neg (by omega), if_neg (by omega), hpoint]
  cases unescape? rest <;> rfl

/-- **A character is read however it is written.** -/
theorem unescape?_append_of_written {c : Char} {os : Octets} (h : Written c os) (rest : Octets) :
    unescape? (os ++ rest) = (unescape? rest).map (String.utf8EncodeChar c ++ ·) := by
  cases h with
  | plain h => exact unescape?_append_of_plain (fun o ho ↦ (h o ho).2.1) rest
  | short h => exact unescape?_short h rest
  | unit h => exact unescape?_unit h rest

/-- All other characters stand for themselves, as the octets of those beyond ASCII are beyond it
too. -/
theorem written_self {c : Char} (hquote : c ≠ '"') (hslash : c ≠ '\\') (hcontrol : 0x20 ≤ c.toNat) :
    Written c (String.utf8EncodeChar c) := by
  refine .plain fun o ho ↦ ?_
  by_cases hc : c.toNat < 0x80
  · rw [utf8EncodeChar_ascii hc, List.mem_singleton] at ho
    -- The one octet of the character has its number, so it is told apart by what tells `c` apart.
    have hval : o.toNat = c.toNat := by
      rw [ho, octetOf, UInt8.toNat_ofNat_of_lt' (Nat.lt_trans hc (by decide))]
    have hne {d : Char} (hd : c ≠ d) : c.toNat ≠ d.toNat := fun h ↦ hd (Char.toNat_inj.1 h)
    have hquote' := hne hquote
    have hslash' := hne hslash
    rw [← hval] at hquote' hslash' hcontrol
    refine ⟨?_, ?_, UInt8.le_iff_toNat_le.2 hcontrol⟩
    · rintro rfl
      exact hquote' rfl
    · rintro rfl
      exact hslash' rfl
  · have hge := UInt8.le_iff_toNat_le.1 (le_of_mem_utf8EncodeChar (Nat.not_lt.1 hc) ho)
    have h80 : (0x80 : UInt8).toNat = 128 := rfl
    refine ⟨?_, ?_, UInt8.le_iff_toNat_le.2 (Nat.le_trans (by decide) hge)⟩
    · rintro rfl
      exact absurd hge (by decide)
    · rintro rfl
      exact absurd hge (by decide)

/-- The code unit that is written for a control. -/
private theorem codeUnit?_control : ∀ n < 0x20,
    utf8 [Nat.digitChar (n / 16), Nat.digitChar (n % 16)] =
        [octetOf (Nat.digitChar (n / 16)), octetOf (Nat.digitChar (n % 16))] ∧
      codeUnit? 0x30 0x30 (octetOf (Nat.digitChar (n / 16)))
        (octetOf (Nat.digitChar (n % 16))) = some n := by
  decide

/-- **What is written for a character is read as that character.** -/
theorem written_escapeChar (c : Char) : Written c (utf8 (escapeChar c)) := by
  rw [escapeChar]
  split
  · next h =>
    rw [Bool.or_eq_true, decide_eq_true_eq, decide_eq_true_eq] at h
    rcases h with rfl | rfl
    · exact .short rfl
    · exact .short rfl
  · next hplain =>
    rw [Bool.or_eq_true, decide_eq_true_eq, decide_eq_true_eq, not_or] at hplain
    split
    · next h => subst h; exact .short rfl
    split
    · next h => subst h; exact .short rfl
    split
    · next h => subst h; exact .short rfl
    split
    · next h => subst h; exact .short rfl
    split
    · next h => subst h; exact .short rfl
    split
    · next h =>
      obtain ⟨hutf8, hunit⟩ := codeUnit?_control c.toNat h
      rw [show ['\\', 'u', '0', '0', Nat.digitChar (c.toNat / 16), Nat.digitChar (c.toNat % 16)] =
        ['\\', 'u', '0', '0'] ++ [Nat.digitChar (c.toNat / 16), Nat.digitChar (c.toNat % 16)] from
          rfl, utf8_append, hutf8]
      exact .unit hunit
    · next h =>
      have hself := written_self hplain.1 hplain.2 (Nat.not_lt.1 h)
      rwa [utf8_cons, utf8_nil, List.append_nil]

theorem escape_cons (c : Char) (s : List Char) : escape (c :: s) = escapeChar c ++ escape s := rfl

/-- By induction on the text, an escaped text is read back octet by octet. -/
theorem unescape?_utf8_escape (s : List Char) : unescape? (utf8 (escape s)) = some (utf8 s) := by
  induction s with
  | nil => rfl
  | cons c s ih =>
    rw [escape_cons, utf8_append, unescape?_append_of_written (written_escapeChar c), ih]
    rfl

/-- **A text that was escaped is read back.** -/
theorem textLiteral?_escape (t : String) : textLiteral? (utf8 (escape t.toList)) = some t := by
  rw [textLiteral?, unescape?_utf8_escape]
  exact textOf?_octetsOf t

/-! ### Number literals -/

/-- The octets of a natural number. -/
def natural (n : Nat) : Octets := utf8 (Nat.toDigits 10 n)

private theorem digit_digitChar : ∀ d < 10,
    utf8 [Nat.digitChar d] = [octetOf (Nat.digitChar d)] ∧
      digit? (octetOf (Nat.digitChar d)) = some d ∧
        (octetOf (Nat.digitChar d) = 0x30 → d = 0) := by
  decide

/-- The octet of a digit. -/
def digit (d : Nat) : UInt8 := octetOf (Nat.digitChar d)

theorem digit?_digit {d : Nat} (h : d < 10) : digit? (digit d) = some d :=
  (digit_digitChar d h).2.1

theorem digit_ne_zero {d : Nat} (h : d < 10) (hd : d ≠ 0) : digit d ≠ 0x30 :=
  fun h0 ↦ hd ((digit_digitChar d h).2.2 h0)

theorem natural_of_lt {n : Nat} (h : n < 10) : natural n = [digit n] := by
  rw [natural, Nat.toDigits_of_lt_base h]
  exact (digit_digitChar n h).1

/-- A number of several digits is written with its last digit behind the others. -/
theorem natural_of_le {n : Nat} (h : 10 ≤ n) :
    natural n = natural (n / 10) ++ [digit (n % 10)] := by
  rw [natural, Nat.toDigits_of_base_le (by decide) h, utf8_append,
    (digit_digitChar (n % 10) (Nat.mod_lt n (by decide))).1]
  rfl

/-- The first digit of a number is zero only for the number zero. -/
theorem exists_natural_eq (n : Nat) :
    ∃ d rest, natural n = digit d :: rest ∧ d < 10 ∧ (n ≠ 0 → d ≠ 0) := by
  induction n using Nat.strongRecOn with
  | ind n ih =>
    by_cases h : n < 10
    · exact ⟨n, [], natural_of_lt h, h, id⟩
    · obtain ⟨d, rest, hnatural, hd, hne⟩ := ih (n / 10) (by omega)
      refine ⟨d, rest ++ [digit (n % 10)], ?_, hd, fun _ ↦ hne (by omega)⟩
      rw [natural_of_le (Nat.not_lt.1 h), hnatural]
      rfl

theorem digitsFrom?_append (n : Nat) (s t : Octets) :
    digitsFrom? n (s ++ t) = (digitsFrom? n s).bind (digitsFrom? · t) := by
  induction s generalizing n with
  | nil => rfl
  | cons o s ih =>
    rw [List.cons_append, digitsFrom?, digitsFrom?]
    cases digit? o with
    | none => rfl
    | some d => exact ih (n * 10 + d)

/-- By induction on the quotient, the digits of a number are read back. -/
theorem digitsFrom?_natural (n : Nat) : digitsFrom? 0 (natural n) = some n := by
  induction n using Nat.strongRecOn with
  | ind n ih =>
    have hdigit {d : Nat} (hd : d < 10) (m : Nat) :
        digitsFrom? m [digit d] = some (m * 10 + d) := by
      rw [digitsFrom?, digit?_digit hd]
      rfl
    by_cases h : n < 10
    · rw [natural_of_lt h, hdigit h, Nat.zero_mul, Nat.zero_add]
    · rw [natural_of_le (Nat.not_lt.1 h), digitsFrom?_append, ih (n / 10) (by omega),
        Option.bind_some, hdigit (Nat.mod_lt n (by decide))]
      exact congrArg some (Nat.div_add_mod' n 10)

/-- **A number that was written is read back.** -/
theorem naturalLiteral?_natural (n : Nat) : naturalLiteral? (natural n) = some n := by
  by_cases h : n < 10
  · rw [natural_of_lt h]
    exact digit?_digit h
  · obtain ⟨d, rest, hnatural, hd, hne⟩ := exists_natural_eq n
    have hzero := digit_ne_zero hd (hne (by omega))
    -- A number with one digit would have been less than ten.
    have hrest : rest ≠ [] := by
      rintro rfl
      have hlen := congrArg List.length hnatural
      obtain ⟨d', rest', hnatural', -, -⟩ := exists_natural_eq (n / 10)
      rw [natural_of_le (Nat.not_lt.1 h), hnatural'] at hlen
      simp at hlen
    rw [← digitsFrom?_natural n, hnatural, naturalLiteral?]
    · intro hnil
      exact absurd hnil (by simp)
    · intro o hcons
      exact hrest (List.cons.inj hcons).2
    · intro tail hcons
      exact hzero (List.cons.inj hcons).1

end Json

end Concordance
