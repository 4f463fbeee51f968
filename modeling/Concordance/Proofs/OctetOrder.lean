import Mathlib.Tactic.SplitIfs
import Concordance.Proofs.Octets

/-!
# The order of texts and of their octets

Texts are ordered by the numbers of their characters, the first difference deciding. UTF-8 keeps
this order: of two characters, the one with the smaller number has the smaller octet where their
octets first differ, whatever comes behind them (`utf8EncodeChar_append_lt`). So texts in ascending
order are in ascending order octet by octet (`octetsOf_lt_octetsOf`).
-/

namespace Concordance

/-- Of two numbers, the smaller one has the smaller digit to base 64 where they differ. -/
private theorem div_lt_or_mod_lt {m n : Nat} (h : m < n) :
    m / 64 < n / 64 ∨ m / 64 = n / 64 ∧ m % 64 < n % 64 := by
  omega

/-- **The octets of characters are ordered as the characters are**, whatever comes behind them. -/
theorem utf8EncodeChar_append_lt {c d : Char} (h : c < d) (s t : Octets) :
    String.utf8EncodeChar c ++ s < String.utf8EncodeChar d ++ t := by
  have hlt : c.val.toNat < d.val.toNat := UInt32.lt_iff_toNat_lt.1 h
  have hmax : d.val.toNat < 0x110000 := by
    rcases d.valid with hd | hd
    · exact Nat.lt_trans hd (by decide)
    · exact hd.2
  have hfourth := div_lt_or_mod_lt hlt
  have hthird (h : c.val.toNat / 64 < d.val.toNat / 64) := div_lt_or_mod_lt h
  have hsecond (h : c.val.toNat / 4096 < d.val.toNat / 4096) := div_lt_or_mod_lt h
  simp only [Nat.div_div_eq_div_mul, Nat.reduceMul] at hthird hsecond
  have hoctet {k m b : Nat} (hk : 0 < k) (hb : k + b ≤ 256) : (m % k + b) % 2 ^ 8 = m % k + b :=
    Nat.mod_eq_of_lt (Nat.lt_of_lt_of_le (Nat.add_lt_add_right (Nat.mod_lt m hk) b) hb)
  -- Fewer octets begin with a smaller one. Of as many, the digits of the numbers are compared.
  simp only [String.utf8EncodeChar]
  split_ifs
  all_goals
    simp only [List.cons_append, List.cons_lt_cons_iff, UInt8.lt_iff_toNat_lt, ← UInt8.toNat_inj,
      UInt8.toNat_ofNat']
    simp (disch := omega) only [hoctet, Nat.mod_eq_of_lt]
    omega

theorem utf8_lt_utf8 {s t : List Char} (h : s < t) : utf8 s < utf8 t := by
  induction s generalizing t with
  | nil =>
    cases t with
    | nil => exact absurd h (List.lt_irrefl [])
    | cons d t =>
      obtain ⟨o, os, hd⟩ := List.exists_cons_of_ne_nil (String.utf8EncodeChar_ne_nil (c := d))
      rw [utf8_nil, utf8_cons, hd]
      exact List.nil_lt_cons o _
  | cons c s ih =>
    cases t with
    | nil => exact absurd h (List.not_lt_nil _)
    | cons d t =>
      rw [utf8_cons, utf8_cons]
      rcases List.cons_lt_cons_iff.1 h with hcd | ⟨rfl, hst⟩
      · exact utf8EncodeChar_append_lt hcd _ _
      · exact List.append_left_lt (ih hst)

/-- **The octets of texts are ordered as the texts are.** -/
theorem octetsOf_lt_octetsOf {a b : String} (h : a < b) : octetsOf a < octetsOf b :=
  utf8_lt_utf8 h

end Concordance
