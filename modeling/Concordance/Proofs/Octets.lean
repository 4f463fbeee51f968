import Concordance.Proofs.Cut
import Concordance.Text.Octets

/-!
# Lines of octets

The UTF-8 form of a character beyond ASCII has no ASCII octets in it, so a line break among octets
is a line break of the text. Cutting the octets of a text into lines therefore gives the octets of
its lines (`lines_utf8`), and every one of them is text again.
-/

namespace Concordance

/-! ### Octets of characters -/

/-- The octet of an ASCII character. -/
def octetOf (c : Char) : UInt8 := UInt8.ofNat c.toNat

/-- A character of ASCII is a single octet, which is its number. -/
theorem utf8EncodeChar_ascii {c : Char} (h : c.toNat < 0x80) :
    String.utf8EncodeChar c = [octetOf c] := by
  have hval : c.val.toNat ≤ 0x7f := Nat.le_of_lt_succ h
  rw [String.utf8EncodeChar, if_pos hval]
  rfl

private theorem le_ofNat_mod_add (n : Nat) {k m : Nat} (hk : 0 < k) (hm : 0x80 ≤ m)
    (hsum : k + m ≤ 0x100) : 0x80 ≤ UInt8.ofNat (n % k + m) := by
  have hlt := Nat.mod_lt n hk
  rw [UInt8.le_iff_toNat_le, UInt8.toNat_ofNat_of_lt' (by rw [UInt8.size]; omega)]
  exact Nat.le_add_left_of_le hm

/-- No octet of a character beyond ASCII is an ASCII character. -/
theorem le_of_mem_utf8EncodeChar {c : Char} (h : 0x80 ≤ c.toNat) {o : UInt8}
    (ho : o ∈ String.utf8EncodeChar c) : 0x80 ≤ o := by
  have hval : ¬ c.val.toNat ≤ 0x7f := Nat.not_le.2 h
  have hnext (n : Nat) :=
    le_ofNat_mod_add n (k := 0x40) (m := 0x80) (by omega) (by omega) (by omega)
  have hfirst₂ (n : Nat) :=
    le_ofNat_mod_add n (k := 0x20) (m := 0xc0) (by omega) (by omega) (by omega)
  have hfirst₃ (n : Nat) :=
    le_ofNat_mod_add n (k := 0x10) (m := 0xe0) (by omega) (by omega) (by omega)
  have hfirst₄ (n : Nat) :=
    le_ofNat_mod_add n (k := 0x08) (m := 0xf0) (by omega) (by omega) (by omega)
  rw [String.utf8EncodeChar, if_neg hval] at ho
  split at ho
  · simp only [List.mem_cons, List.not_mem_nil, or_false] at ho
    rcases ho with rfl | rfl
    · exact hfirst₂ _
    · exact hnext _
  · split at ho
    · simp only [List.mem_cons, List.not_mem_nil, or_false] at ho
      rcases ho with rfl | rfl | rfl
      · exact hfirst₃ _
      · exact hnext _
      · exact hnext _
    · simp only [List.mem_cons, List.not_mem_nil, or_false] at ho
      rcases ho with rfl | rfl | rfl | rfl
      · exact hfirst₄ _
      · exact hnext _
      · exact hnext _
      · exact hnext _

/-! ### Octets of texts -/

theorem octetsOf_append (s t : String) : octetsOf (s ++ t) = octetsOf s ++ octetsOf t := by
  rw [octetsOf, String.toList_append, utf8_append, octetsOf, octetsOf]

theorem octetsOf_newline : octetsOf "\n" = [0x0a] := rfl

/-- **Only the octets of a text are read as that text.** -/
theorem textOf?_eq_some_iff {o : Octets} {t : String} : textOf? o = some t ↔ o = octetsOf t := by
  constructor
  · intro h
    rw [textOf?, String.fromUTF8?] at h
    split at h
    next hvalid =>
      have hbytes : t.toByteArray = o.toByteArray := by
        rw [← Option.some.inj h]
        rfl
      have hdata := congrArg (fun b : ByteArray ↦ b.data.toList) hbytes
      rw [← toByteArray_octetsOf] at hdata
      simpa using hdata.symm
    next => exact absurd h (by simp)
  · rintro rfl
    exact textOf?_octetsOf t

/-! ### Line breaks -/

/-- No octet of a character is a line break, unless the character is. -/
theorem ne_of_mem_utf8EncodeChar {c : Char} (h : c ≠ '\n') {o : UInt8}
    (ho : o ∈ String.utf8EncodeChar c) : o ≠ 0x0a := by
  rintro rfl
  by_cases hascii : c.toNat < 0x80
  · rw [utf8EncodeChar_ascii hascii, List.mem_singleton, octetOf] at ho
    have hval := congrArg UInt8.toNat ho
    rw [UInt8.toNat_ofNat_of_lt' (by rw [UInt8.size]; omega)] at hval
    exact h (Char.toNat_inj.1 hval.symm)
  · exact absurd (le_of_mem_utf8EncodeChar (by omega) ho) (by decide)

/-- By induction on the text: only a line break has the octet of a line break. -/
theorem cut_utf8 (s : List Char) : cut (· = 0x0a) (utf8 s) = (cut (· = '\n') s).map utf8 := by
  induction s with
  | nil => rfl
  | cons c s ih =>
    by_cases hc : c = '\n'
    · subst hc
      have hencode : String.utf8EncodeChar '\n' = [0x0a] := utf8EncodeChar_ascii (by decide)
      rw [utf8_cons, hencode, List.singleton_append, cut_cons_of_sep rfl, cut_cons_of_sep rfl, ih]
      rfl
    · have hencode : ∀ o ∈ String.utf8EncodeChar c, decide (o = 0x0a) = false :=
        fun o ho ↦ decide_eq_false (ne_of_mem_utf8EncodeChar hc ho)
      rw [utf8_cons, cut_append_of_forall_not_sep hencode, ih,
        cut_cons_of_not_sep (by simpa using hc)]
      cases cut (· = '\n') s <;> rfl

/-- **The lines of the octets of a text are the octets of its lines.** -/
theorem lines_utf8 (s : List Char) : lines (· = 0x0a) (utf8 s) = (lines (· = '\n') s).map utf8 := by
  rw [lines, lines, cut_utf8, List.getLast?_map]
  cases (cut (· = '\n') s).getLast? with
  | none => rfl
  | some l => cases l <;> simp

end Concordance
