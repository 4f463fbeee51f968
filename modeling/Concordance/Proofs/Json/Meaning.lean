import Mathlib.Data.List.Forall2
import Concordance.Json.Decoding
import Concordance.Proofs.Json.Literal

/-!
# What is read means

Declarative accounts of what a literal stands for and of which fields a record has, with the proof
that the decoders find exactly that. A text literal stands for octets, escape by escape
(`StandsFor`); a number literal is that of a natural number if it is the one that would be written
(`naturalLiteral?_eq_some_iff`); and a record gives its fields by name or by order (`HasFields`).
-/

namespace Concordance

theorem mapM_eq_some_iff {α β : Type} {f : α → Option β} {l : List α} {m : List β} :
    l.mapM f = some m ↔ List.Forall₂ (fun a b ↦ f a = some b) l m := by
  induction l generalizing m with
  | nil => rw [List.mapM_nil, List.forall₂_nil_left_iff, eq_comm (a := m)]; exact Option.some_inj
  | cons a l ih =>
    rw [List.mapM_cons, List.forall₂_cons_left_iff]
    simp only [Option.bind_eq_bind, Option.bind_eq_some_iff, ih]
    constructor
    · rintro ⟨b, hb, m', hm', h⟩
      exact ⟨b, m', hb, hm', (Option.some.inj h).symm⟩
    · rintro ⟨b, m', hb, hm', rfl⟩
      exact ⟨b, hb, m', hm', rfl⟩

namespace Json

/-! ### Texts -/

/-- The inside of a text literal stands for the octets. -/
inductive StandsFor : Octets → Octets → Prop where
  /-- Nothing stands for nothing. -/
  | nil : StandsFor [] []
  /-- An octet stands for itself. -/
  | plain {o : UInt8} {l s : Octets} (ho : o ≠ 0x5C) (hs : StandsFor l s) :
      StandsFor (o :: l) (o :: s)
  /-- A backslash and a letter stand for a character. -/
  | short {e : UInt8} {c : Char} {l s : Octets} (he : shortEscape? e = some c)
      (hs : StandsFor l s) : StandsFor (0x5C :: e :: l) (String.utf8EncodeChar c ++ s)
  /-- A code unit outside the surrogates stands for the character with its number. -/
  | unit {x y z w : UInt8} {n : Nat} {l s : Octets} (hn : codeUnit? x y z w = some n)
      (hplane : n < 0xD800 ∨ 0xE000 ≤ n) (hs : StandsFor l s) :
      StandsFor (0x5C :: 0x75 :: x :: y :: z :: w :: l) (codePoint n ++ s)
  /-- A high and a low surrogate stand for a character beyond the basic plane. -/
  | pair {x y z w x' y' z' w' : UInt8} {hi lo : Nat} {l s : Octets}
      (hhi : codeUnit? x y z w = some hi) (hhigh : 0xD800 ≤ hi ∧ hi < 0xDC00)
      (hlo : codeUnit? x' y' z' w' = some lo) (hlow : 0xDC00 ≤ lo ∧ lo < 0xE000)
      (hs : StandsFor l s) :
      StandsFor (0x5C :: 0x75 :: x :: y :: z :: w :: 0x5C :: 0x75 :: x' :: y' :: z' :: w' :: l)
        (codePoint (0x10000 + (hi - 0xD800) * 0x400 + (lo - 0xDC00)) ++ s)

/-- A literal is read as the octets that it stands for. -/
theorem unescape?_of_standsFor {l s : Octets} (h : StandsFor l s) : unescape? l = some s := by
  induction h with
  | nil => rfl
  | plain ho _ ih => rw [unescape?_cons ho, ih, Option.map_some]
  | short he _ ih => rw [unescape?_short he, ih, Option.map_some]
  | unit hn hplane _ ih =>
    rw [unescape?, hn]
    simp only [Option.bind_eq_bind, Option.bind_some]
    rw [if_neg (by omega), if_neg (by omega), ih]
    rfl
  | pair hhi hhigh hlo hlow _ ih =>
    rw [unescape?, hhi]
    simp only [Option.bind_eq_bind, Option.bind_some, if_pos hhigh, hlo, if_pos hlow, ih]
    rfl

/-- And it stands for no others, as the cases of the reader show one by one. -/
theorem standsFor_of_unescape? {l s : Octets} (h : unescape? l = some s) : StandsFor l s := by
  fun_induction unescape? l generalizing s with
  | case1 =>
    obtain rfl := Option.some.inj h
    exact .nil
  | case2 x y z w rest ihpair ihunit =>
    obtain ⟨hi, hhi, h⟩ := Option.bind_eq_some_iff.1 h
    split at h
    · next hhigh =>
      -- A high surrogate needs a low one behind it.
      split at h
      · obtain ⟨lo, hlo, h⟩ := Option.bind_eq_some_iff.1 h
        split at h
        · next hlow =>
          obtain ⟨t, ht, h⟩ := Option.bind_eq_some_iff.1 h
          obtain rfl := Option.some.inj h
          exact .pair hhi hhigh hlo hlow (ihpair ht)
        · exact absurd h (by simp)
      · exact absurd h (by simp)
    · next hhigh =>
      split at h
      · exact absurd h (by simp)
      · next hlow =>
        obtain ⟨t, ht, h⟩ := Option.bind_eq_some_iff.1 h
        obtain rfl := Option.some.inj h
        exact .unit hhi (by omega) (ihunit ht)
  | case3 e rest _ ih =>
    obtain ⟨c, hc, h⟩ := Option.bind_eq_some_iff.1 h
    obtain ⟨t, ht, h⟩ := Option.bind_eq_some_iff.1 h
    obtain rfl := Option.some.inj h
    exact .short hc (ih ht)
  | case4 => exact absurd h (by simp)
  | case5 o rest _ _ ho ih =>
    obtain ⟨t, ht, h⟩ := Option.bind_eq_some_iff.1 h
    obtain rfl := Option.some.inj h
    exact .plain ho (ih ht)

/-- **A text literal is read as the text for which it stands.** -/
theorem textLiteral?_eq_some_iff {l : Octets} {t : String} :
    textLiteral? l = some t ↔ StandsFor l (octetsOf t) := by
  rw [textLiteral?, Option.bind_eq_some_iff]
  constructor
  · rintro ⟨s, hs, ht⟩
    obtain rfl := textOf?_eq_some_iff.1 ht
    exact standsFor_of_unescape? hs
  · intro h
    exact ⟨_, unescape?_of_standsFor h, textOf?_octetsOf t⟩

/-! ### Numbers -/

/-- A digit is read from its own octet only. -/
theorem eq_digit_of_digit? {o : UInt8} {d : Nat} (h : digit? o = some d) :
    d < 10 ∧ o = digit d := by
  have hoctet : ∀ n < 256, ∀ d ∈ digit? (UInt8.ofNat n), d < 10 ∧ UInt8.ofNat n = digit d := by
    decide +kernel
  have ho := hoctet o.toNat o.toNat_lt
  rw [UInt8.ofNat_toNat] at ho
  exact ho d h

/-- Digits behind a number that is not zero make the number that is written with them. -/
theorem natural_of_digitsFrom? {m n : Nat} {s : Octets} (hm : 0 < m)
    (h : digitsFrom? m s = some n) : natural n = natural m ++ s := by
  induction s generalizing m with
  | nil =>
    obtain rfl := Option.some.inj h
    rw [List.append_nil]
  | cons o s ih =>
    obtain ⟨d, hd, hs⟩ := Option.bind_eq_some_iff.1 h
    obtain ⟨hlt, rfl⟩ := eq_digit_of_digit? hd
    have hdiv : (m * 10 + d) / 10 = m := by omega
    have hmod : (m * 10 + d) % 10 = d := by omega
    rw [ih (by omega) hs, natural_of_le (by omega), hdiv, hmod, List.append_assoc]
    rfl

/-- **A number literal is read as a natural number if it is the one that is written for it.** -/
theorem naturalLiteral?_eq_some_iff {l : Octets} {n : Nat} :
    naturalLiteral? l = some n ↔ l = natural n := by
  constructor
  · intro h
    unfold naturalLiteral? at h
    split at h
    · exact absurd h (by simp)
    · obtain ⟨hlt, rfl⟩ := eq_digit_of_digit? h
      exact (natural_of_lt hlt).symm
    · exact absurd h (by simp)
    · next hnil hsingle hzero =>
      obtain ⟨o, s, rfl⟩ := List.exists_cons_of_ne_nil hnil
      obtain ⟨d, hd, hs⟩ := Option.bind_eq_some_iff.1 h
      obtain ⟨hlt, rfl⟩ := eq_digit_of_digit? hd
      have hpos : 0 < d := by
        refine Nat.pos_of_ne_zero ?_
        rintro rfl
        exact hzero s rfl
      rw [Nat.zero_mul, Nat.zero_add] at hs
      rw [natural_of_digitsFrom? hpos hs, natural_of_lt hlt]
      rfl
  · rintro rfl
    exact naturalLiteral?_natural n

/-! ### Values of a known kind -/

/-- A natural number is asked for by its literal, which is unique. -/
theorem asNatural?_eq_some_iff {v : RawJson} {n : Nat} :
    asNatural? v = some n ↔ v = .number (natural n) := by
  cases v <;> simp [asNatural?, naturalLiteral?_eq_some_iff]

theorem asBool?_eq_some_iff {v : RawJson} {b : Bool} : asBool? v = some b ↔ v = .bool b := by
  cases v <;> simp [asBool?]

/-- A text may be asked for however it was escaped. -/
theorem asText?_eq_some_iff {v : RawJson} {t : String} :
    asText? v = some t ↔ ∃ l, v = .text l ∧ StandsFor l (octetsOf t) := by
  cases v <;> simp [asText?, textLiteral?_eq_some_iff]

theorem asArray?_eq_some_iff {v : RawJson} {items : List RawJson} :
    asArray? v = some items ↔ v = .array items := by
  cases v <;> simp [asArray?]

theorem asObject?_eq_some_iff {v : RawJson} {members : List (Octets × RawJson)} :
    asObject? v = some members ↔ v = .object members := by
  cases v <;> simp [asObject?]

/-! ### Records -/

/-- Members and what they are when their names are read as texts. -/
def AreNamed : List (Octets × RawJson) → List (String × RawJson) → Prop :=
  List.Forall₂ fun m f ↦ StandsFor m.1 (octetsOf f.1) ∧ m.2 = f.2

/-- A value is a record with these fields, of those that have the given names. Members that are no
field are among them. -/
inductive HasFields (names : List String) : RawJson → List (String × RawJson) → Prop where
  /-- By name: every name is a text, and no field is given twice. -/
  | byName {members : List (Octets × RawJson)} {fields : List (String × RawJson)}
      (h : AreNamed members fields)
      (hnames : ∀ n ∈ names, (fields.filter fun f ↦ f.1 = n).length ≤ 1) :
      HasFields names (.object members) fields
  /-- By order: no more values than there are names. -/
  | byOrder {items : List RawJson} (h : items.length ≤ names.length) :
      HasFields names (.array items) (names.zip items)

/-- Members are decoded if each of their names is a text. What their values are is left to the
fields. -/
theorem namedMembers?_eq_some_iff {members : List (Octets × RawJson)}
    {fields : List (String × RawJson)} :
    namedMembers? members = some fields ↔ AreNamed members fields := by
  have hmember (m : Octets × RawJson) (f : String × RawJson) :
      (textLiteral? m.1).map (fun name ↦ (name, m.2)) = some f ↔
        StandsFor m.1 (octetsOf f.1) ∧ m.2 = f.2 := by
    rw [Option.map_eq_some_iff]
    constructor
    · rintro ⟨t, ht, rfl⟩
      exact ⟨textLiteral?_eq_some_iff.1 ht, rfl⟩
    · rintro ⟨hf, hm⟩
      exact ⟨f.1, textLiteral?_eq_some_iff.2 hf, Prod.ext rfl hm⟩
  rw [namedMembers?, mapM_eq_some_iff, AreNamed]
  simp only [hmember]

/-- **A value is decoded to its fields if it is a record with these fields.** -/
theorem fields?_eq_some_iff {names : List String} {v : RawJson}
    {fields : List (String × RawJson)} :
    v.fields? names = some fields ↔ HasFields names v fields := by
  constructor
  · intro h
    unfold fields? at h
    split at h
    · split at h
      · next hlen =>
        obtain rfl := Option.some.inj h
        exact .byOrder hlen
      · exact absurd h (by simp)
    · obtain ⟨named, hnamed, h⟩ := Option.bind_eq_some_iff.1 h
      split at h
      · next hnames =>
        obtain rfl := Option.some.inj h
        exact .byName (namedMembers?_eq_some_iff.1 hnamed) (by simpa using hnames)
      · exact absurd h (by simp)
    · exact absurd h (by simp)
  · intro h
    cases h with
    | byName h hnames =>
      rw [fields?, namedMembers?_eq_some_iff.2 h]
      exact if_pos (by simpa using hnames)
    | byOrder h => exact if_pos h

end Json

end Concordance
