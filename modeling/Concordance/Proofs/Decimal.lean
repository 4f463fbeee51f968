import Concordance.DocId

/-!
# Decimal spellings

The canonical spelling of a number is a non-empty list of digits that determines the number. What
follows the digits of a number in a text is therefore told apart from them by its first character,
as long as that is no digit (`digits_append_cons_inj`): this is why the number of a line can be read
off a message, and the identifier of a document off the name of its file. The same holds of what
goes before the digits (`append_cons_digits_inj`).

Reading digits gives the number they spell, if it fits (`ofDigits_eq_ok_iff`). So just the texts
are accepted that spell an identifier, with a plus sign and leading zeros or without
(`parse_eq_ok_iff`), and the canonical spelling is read back (`parse_digits`).
-/

namespace Concordance

/-- Numbers with the same digits are equal. -/
theorem toDigits_injective {m n : Nat} (h : Nat.toDigits 10 m = Nat.toDigits 10 n) : m = n := by
  have hval := congrArg (fun l ↦ Nat.ofDigitChars 10 l 0) h
  simpa only [Nat.ofDigitChars_ten_toDigits] using hval

theorem isDigit_of_mem_toDigits {n : Nat} {c : Char} (h : c ∈ Nat.toDigits 10 n) :
    c.isDigit = true :=
  Nat.isDigit_of_mem_toDigits (by decide) (by decide) h

/-- **Digits before a character that is no digit determine the number.** -/
theorem digits_append_cons_inj {m n : Nat} {c d : Char} {s t : List Char}
    (hc : c.isDigit = false) (hd : d.isDigit = false)
    (h : Nat.toDigits 10 m ++ c :: s = Nat.toDigits 10 n ++ d :: t) : m = n := by
  have htake : ∀ (k : Nat) {e : Char} (r : List Char), e.isDigit = false →
      (Nat.toDigits 10 k ++ e :: r).takeWhile Char.isDigit = Nat.toDigits 10 k := by
    intro k e r he
    rw [List.takeWhile_append_of_pos fun c hc ↦ isDigit_of_mem_toDigits hc,
      List.takeWhile_cons_of_neg (by simp [he]), List.append_nil]
  refine toDigits_injective ?_
  rw [← htake m s hc, h, htake n t hd]

/-- **Digits behind a character that is no digit determine the number.** -/
theorem append_cons_digits_inj {m n : Nat} {c d : Char} {s t : List Char}
    (hc : c.isDigit = false) (hd : d.isDigit = false)
    (h : s ++ c :: Nat.toDigits 10 m = t ++ d :: Nat.toDigits 10 n) : m = n := by
  have htake : ∀ (k : Nat) {e : Char} (r : List Char), e.isDigit = false →
      (r ++ e :: Nat.toDigits 10 k).reverse.takeWhile Char.isDigit =
        (Nat.toDigits 10 k).reverse := by
    intro k e r he
    rw [List.reverse_append, List.reverse_cons, List.append_assoc, List.singleton_append,
      List.takeWhile_append_of_pos fun c hc ↦ isDigit_of_mem_toDigits (List.mem_reverse.1 hc),
      List.takeWhile_cons_of_neg (by simp [he]), List.append_nil]
  refine toDigits_injective (List.reverse_inj.1 ?_)
  rw [← htake m s hc, h, htake n t hd]

namespace DocId

/-- Every identifier has a digit, zero too. -/
theorem digits_ne_nil (id : DocId) : id.digits ≠ [] :=
  Nat.toDigits_ne_nil

theorem isDigit_of_mem_digits {id : DocId} {c : Char} (h : c ∈ id.digits) : c.isDigit = true :=
  isDigit_of_mem_toDigits h

/-- **An identifier is determined by its digits.** -/
theorem digits_injective {i j : DocId} (h : i.digits = j.digits) : i = j :=
  UInt64.toNat_inj.1 (toDigits_injective h)

@[simp] theorem toList_text (id : DocId) : id.text.toList = id.digits :=
  String.toList_ofList

/-- **The canonical spelling determines the document.** -/
theorem text_injective {i j : DocId} (h : i.text = j.text) : i = j :=
  digits_injective (by rw [← toList_text, h, toList_text])

/-! ### Reading -/

/-- Further digits never make a number smaller, so that a beginning that is too large decides. -/
private theorem le_ofDigitChars (l : List Char) (n : Nat) : n ≤ Nat.ofDigitChars 10 l n := by
  induction l generalizing n with
  | nil => exact Nat.le_refl n
  | cons c l ih =>
    rw [Nat.ofDigitChars_cons]
    exact Nat.le_trans (by omega) (ih _)

/-- Digits are read as the number they spell, if it fits. -/
theorem ofDigits_eq_ok {l : List Char} (hl : ∀ c ∈ l, c.isDigit = true) {n : Nat}
    (h : Nat.ofDigitChars 10 l n < UInt64.size) :
    ofDigits n l = .ok (UInt64.ofNat (Nat.ofDigitChars 10 l n)) := by
  induction l generalizing n with
  | nil => rfl
  | cons c l ih =>
    rw [Nat.ofDigitChars_cons, Nat.mul_comm] at h ⊢
    have hle := le_ofDigitChars l (n * 10 + (c.toNat - '0'.toNat))
    rw [ofDigits, if_pos (hl c List.mem_cons_self)]
    simp only [if_pos (Nat.lt_of_le_of_lt hle h)]
    exact ih (fun d hd ↦ hl d (List.mem_cons_of_mem c hd)) h

/-- Digits are read as an identifier exactly if they spell its number. -/
theorem ofDigits_eq_ok_iff {l : List Char} {n : Nat} {id : DocId} (hn : n < UInt64.size) :
    ofDigits n l = .ok id ↔
      (∀ c ∈ l, c.isDigit = true) ∧ Nat.ofDigitChars 10 l n = id.toNat := by
  constructor
  · intro h
    induction l generalizing n with
    | nil =>
      obtain rfl := Except.ok.inj h
      exact ⟨by simp, (UInt64.toNat_ofNat_of_lt' hn).symm⟩
    | cons c l ih =>
      rw [ofDigits] at h
      split at h
      · next hc =>
        simp only at h
        split at h
        · next hm =>
          obtain ⟨hl, hvalue⟩ := ih hm h
          rw [Nat.ofDigitChars_cons, Nat.mul_comm]
          exact ⟨List.forall_mem_cons.2 ⟨hc, hl⟩, hvalue⟩
        · exact absurd h (by simp)
      · exact absurd h (by simp)
  · rintro ⟨hl, hvalue⟩
    rw [ofDigits_eq_ok hl (by rw [hvalue]; exact id.toNat_lt), hvalue, UInt64.ofNat_toNat]

/-- The text spells the identifier: in decimal, with leading zeros or without, and with a plus sign
before it or without. -/
def SpelledBy (id : DocId) (s : List Char) : Prop :=
  ∃ ds, (s = ds ∨ s = '+' :: ds) ∧ ds ≠ [] ∧ (∀ c ∈ ds, c.isDigit = true) ∧
    Nat.ofDigitChars 10 ds 0 = id.toNat

/-- **Just the texts are accepted that spell an identifier.** -/
theorem parse_eq_ok_iff {s : List Char} {id : DocId} : parse s = .ok id ↔ id.SpelledBy s := by
  have hplus {ds : List Char} (hds : ∀ c ∈ ds, c.isDigit = true) : '+' ∉ ds := fun hmem ↦
    absurd (hds '+' hmem) (by decide)
  have hzero : 0 < UInt64.size := by decide
  rw [SpelledBy]
  fun_cases parse s with
  | case1 =>
    refine iff_of_false (by simp) ?_
    rintro ⟨ds, rfl | hs, hne, -⟩
    · exact hne rfl
    · exact absurd hs (by simp)
  | case2 =>
    refine iff_of_false (by simp) ?_
    rintro ⟨ds, rfl | hs, hne, hds, -⟩
    · exact hplus hds List.mem_cons_self
    · exact hne (List.cons.inj hs).2.symm
  | case3 c rest =>
    rw [ofDigits_eq_ok_iff hzero]
    constructor
    · intro h
      exact ⟨c :: rest, .inr rfl, by simp, h⟩
    · rintro ⟨ds, rfl | hs, -, hds⟩
      · exact absurd List.mem_cons_self (hplus hds.1)
      · rwa [(List.cons.inj hs).2]
  | case4 =>
    next hnil _ hsigned =>
      rw [ofDigits_eq_ok_iff hzero]
      constructor
      · intro h
        exact ⟨s, .inl rfl, hnil, h⟩
      · rintro ⟨ds, rfl | rfl, hne, hds⟩
        · exact hds
        · obtain ⟨c, rest, rfl⟩ := List.exists_cons_of_ne_nil hne
          exact absurd rfl (hsigned c rest)

/-- **The canonical spelling is read back.** -/
theorem parse_digits (id : DocId) : parse id.digits = .ok id := by
  have hread : ofDigits 0 id.digits = .ok id := by
    have hval : Nat.ofDigitChars 10 id.digits 0 = id.toNat := Nat.ofDigitChars_ten_toDigits
    rw [ofDigits_eq_ok (fun c ↦ isDigit_of_mem_digits) (by rw [hval]; exact id.toNat_lt), hval,
      UInt64.ofNat_toNat]
  cases hdigits : id.digits with
  | nil => exact absurd hdigits id.digits_ne_nil
  | cons c l =>
    have hc : c ≠ '+' := by
      rintro rfl
      have hmem : '+' ∈ id.digits := by rw [hdigits]; exact List.mem_cons_self
      exact absurd (isDigit_of_mem_digits hmem) (by decide)
    rw [hdigits] at hread
    rw [parse]
    · exact hread
    · simp
    · simp [hc]
    · simp [hc]

end DocId

end Concordance
