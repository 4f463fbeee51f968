import Concordance.Proofs.Json.Completeness

/-!
# Nothing but documents is read

The machine keeps what it has read, so its state says what the octets behind it are: a beginning of
a document, cut where the state says (`Covers`). Each open container accounts for the octets from
its bracket up to the item or member at which the machine is (`Opened`), and the phase accounts for
the rest (`PhaseCovers`). One octet keeps this (`Covers.step?`), hence a run does, and a state with
a result covers a whole document (`Covers.document`).

With what is read of documents this says exactly which octets are read: the documents of the grammar
(`read?_eq_some_iff`).
-/

namespace Concordance.Json

variable {frames : List Frame} {o : UInt8} {v : RawJson}

/-! ### Octets and their characters -/

theorem charOf_injective : Function.Injective charOf := by
  intro o o' h
  have hoctet (o : UInt8) : (charOf o).toUInt8 = o :=
    forall_octet (p := fun o ↦ (charOf o).toUInt8 = o) (by decide +kernel) o
  rw [← hoctet o, h, hoctet o']

/-- The octet of a sign of the grammar. -/
theorem eq_of_charOf {o' : UInt8} {c : Char} (h : charOf o = c) (hc : c = charOf o') : o = o' :=
  charOf_injective (h.trans hc)

/-! ### Literals so far -/

/-- The octets are the inside of a text as far as it is read in this escape state. -/
inductive TextSoFar : Escape → Octets → Prop where
  /-- The text may end here. -/
  | none {s : Octets} (hs : IsText s) : TextSoFar .none s
  /-- A backslash is at the end. -/
  | begun {s : Octets} (hs : IsText s) : TextSoFar .begun (s ++ [0x5C])
  /-- Some of four hexadecimal digits are at the end. -/
  | digits {s h : Octets} {missing : Nat} (hs : IsText s) (hh : ∀ o ∈ h, IsHexDigit o)
      (hlen : h.length + missing = 4) (hpos : 0 < missing) :
      TextSoFar (.digits missing) (s ++ 0x5C :: 0x75 :: h)

/-- Four hexadecimal digits end an escape. -/
theorem isText_unit {s h : Octets} (hs : IsText s) (hh : ∀ o ∈ h, IsHexDigit o)
    (hlen : h.length = 4) : IsText (s ++ 0x5C :: 0x75 :: h) := by
  match h, hlen with
  | [a, b, c, d], _ =>
    have hmem {o : UInt8} (ho : o ∈ [a, b, c, d]) : IsHexDigit o := hh o ho
    exact hs.append (.unit (hmem (by simp)) (hmem (by simp)) (hmem (by simp)) (hmem (by simp)) .nil)

/-- One octet keeps what is known of the beginning of a text. -/
theorem TextSoFar.next? {e e' : Escape} {l : Octets} (h : TextSoFar e l)
    (hnext : e.next? o = some e') (hquote : e = .none → o ≠ 0x22) : TextSoFar e' (l ++ [o]) := by
  cases h with
  | none hs =>
    rw [Escape.next?] at hnext
    split at hnext
    · next ho =>
      subst ho
      obtain rfl := Option.some.inj hnext
      exact .begun hs
    · next hslash =>
      split at hnext
      · exact absurd hnext (by simp)
      · next hcontrol =>
        obtain rfl := Option.some.inj hnext
        exact .none (hs.append (.plain (hquote rfl) hslash (UInt8.not_lt.1 hcontrol) .nil))
  | @begun s hs =>
    rw [Escape.next?] at hnext
    rw [List.append_assoc]
    split at hnext
    · next ho =>
      subst ho
      obtain rfl := Option.some.inj hnext
      exact .digits hs (List.forall_mem_nil _) rfl (by decide)
    · split at hnext
      · next hshort =>
        obtain rfl := Option.some.inj hnext
        exact .none (hs.append (.short (isSome_shortEscape?_iff.1 hshort) .nil))
      · exact absurd hnext (by simp)
  | @digits s h missing hs hh hlen hpos =>
    rw [Escape.next?] at hnext
    split at hnext
    · next hdigit =>
      have hdigits : ∀ o' ∈ h ++ [o], IsHexDigit o' :=
        List.forall_mem_append.2
          ⟨hh, List.forall_mem_singleton.2 (isSome_hexDigit?_iff.1 hdigit)⟩
      have hlength : (h ++ [o]).length = h.length + 1 := List.length_append
      obtain rfl := Option.some.inj hnext
      rw [List.append_assoc, List.cons_append, List.cons_append]
      split
      · exact .none (isText_unit hs hdigits (by omega))
      · exact .digits hs hdigits (by omega) (by omega)
    · exact absurd hnext (by simp)

/-- The octets are a number as far as it is read in this part. Where digits may follow, they are a
number of some kind whatever digits follow. -/
inductive NumberSoFar : NumberPart → Octets → Prop where
  | minus : NumberSoFar .minus [0x2D]
  | zero {s : Octets} (hs : IsSigned s) : NumberSoFar .zero s
  | integer {s : Octets} (hs : ∀ t, AllDigits t → IsSigned (s ++ t)) : NumberSoFar .integer s
  | point {s : Octets} (hs : IsSigned s) : NumberSoFar .point (s ++ [0x2E])
  | fraction {s : Octets} (hs : ∀ t, AllDigits t → IsDecimal (s ++ t)) : NumberSoFar .fraction s
  | exponent {s : Octets} {e : UInt8} (hs : IsDecimal s) (he : e = 0x65 ∨ e = 0x45) :
      NumberSoFar .exponent (s ++ [e])
  | exponentSign {s m : Octets} (hs : IsDecimal s) (hm : IsExponentMark m) :
      NumberSoFar .exponentSign (s ++ m)
  | exponentDigits {s : Octets} (hs : ∀ t, AllDigits t → IsNumber (s ++ t)) :
      NumberSoFar .exponentDigits s

/-- A number that may end is a number. -/
theorem NumberSoFar.isNumber {part : NumberPart} {s : Octets} (h : NumberSoFar part s)
    (hend : part.mayEnd = true) : IsNumber s := by
  have hnil {p : Octets → Prop} (hs : ∀ t, AllDigits t → p (s ++ t)) : p s := by
    have hs := hs [] allDigits_nil
    rwa [List.append_nil] at hs
  cases h with
  | zero hs => exact .decimal (.integer hs)
  | integer hs => exact .decimal (.integer (hnil hs))
  | fraction hs => exact .decimal (hnil hs)
  | exponentDigits hs => exact hnil hs
  | minus | point | exponent | exponentSign => exact absurd hend (by decide)

/-- A part that any digits may follow may be followed by one more. -/
theorem numberSoFar_digit {p : Octets → Prop} {s : Octets}
    (h : ∀ t, t ≠ [] → AllDigits t → p (s ++ t)) (ho : IsDigit o) :
    ∀ t, AllDigits t → p (s ++ [o] ++ t) := by
  intro t ht
  rw [List.append_assoc]
  exact h _ (by simp) (List.forall_mem_cons.2 ⟨ho, ht⟩)

/-- What may follow the integer part begins a fraction or an exponent. -/
theorem numberSoFar_afterInteger {s : Octets} {part : NumberPart} (hs : IsSigned s)
    (h : NumberPart.next?.afterInteger? o = some part) : NumberSoFar part (s ++ [o]) := by
  rw [NumberPart.next?.afterInteger?] at h
  split at h
  · next ho =>
    subst ho
    obtain rfl := Option.some.inj h
    exact .point hs
  · split at h
    · next he =>
      obtain rfl := Option.some.inj h
      exact .exponent (.integer hs) (by simpa using he)
    · exact absurd h (by simp)

/-- A first digit begins the integer part. -/
theorem numberSoFar_first {s : Octets} (hs : ∀ t, IsInteger t → IsSigned (s ++ t))
    (ho : IsDigit o) : NumberSoFar (if o = 0x30 then .zero else .integer) (s ++ [o]) := by
  split
  · next hzero =>
    subst hzero
    exact .zero (hs _ .zero)
  · next hne =>
    refine .integer fun t ht ↦ ?_
    rw [List.append_assoc]
    exact hs _ (.digits ho hne ht)

/-- One octet keeps what is known of the beginning of a number. -/
theorem NumberSoFar.next? {part part' : NumberPart} {s : Octets} (h : NumberSoFar part s)
    (hnext : part.next? o = some part') : NumberSoFar part' (s ++ [o]) := by
  cases h with
  | minus =>
    rw [NumberPart.next?] at hnext
    split at hnext
    · next hzero =>
      subst hzero
      obtain rfl := Option.some.inj hnext
      exact .zero (.negative .zero)
    · next hne =>
      split at hnext
      · next hdigit =>
        obtain rfl := Option.some.inj hnext
        exact .integer fun t ht ↦ .negative (.digits (isSome_digit?_iff.1 hdigit) hne ht)
      · exact absurd hnext (by simp)
  | zero hs => exact numberSoFar_afterInteger hs hnext
  | integer hs =>
    rw [NumberPart.next?] at hnext
    split at hnext
    · next hdigit =>
      obtain rfl := Option.some.inj hnext
      exact .integer (numberSoFar_digit (fun t _ ↦ hs t) (isSome_digit?_iff.1 hdigit))
    · have hs := hs [] allDigits_nil
      rw [List.append_nil] at hs
      exact numberSoFar_afterInteger hs hnext
  | point hs =>
    rw [NumberPart.next?] at hnext
    split at hnext
    · next hdigit =>
      obtain rfl := Option.some.inj hnext
      refine .fraction (numberSoFar_digit (fun t hne ht ↦ ?_) (isSome_digit?_iff.1 hdigit))
      rw [List.append_assoc]
      exact .fraction hs hne ht
    · exact absurd hnext (by simp)
  | fraction hs =>
    rw [NumberPart.next?] at hnext
    split at hnext
    · next hdigit =>
      obtain rfl := Option.some.inj hnext
      exact .fraction (numberSoFar_digit (fun t _ ↦ hs t) (isSome_digit?_iff.1 hdigit))
    · split at hnext
      · next he =>
        have hs := hs [] allDigits_nil
        rw [List.append_nil] at hs
        obtain rfl := Option.some.inj hnext
        exact .exponent hs (by simpa using he)
      · exact absurd hnext (by simp)
  | @exponent s e hs he =>
    rw [NumberPart.next?] at hnext
    split at hnext
    · next ho =>
      obtain rfl := Option.some.inj hnext
      rw [List.append_assoc]
      exact .exponentSign hs (.signed he (by simpa using ho))
    · split at hnext
      · next hdigit =>
        obtain rfl := Option.some.inj hnext
        exact .exponentDigits (numberSoFar_digit (fun t hne ht ↦ .exponent hs (.plain he) hne ht)
          (isSome_digit?_iff.1 hdigit))
      · exact absurd hnext (by simp)
  | exponentSign hs hm =>
    rw [NumberPart.next?] at hnext
    split at hnext
    · next hdigit =>
      obtain rfl := Option.some.inj hnext
      exact .exponentDigits (numberSoFar_digit (fun t hne ht ↦ .exponent hs hm hne ht)
        (isSome_digit?_iff.1 hdigit))
    · exact absurd hnext (by simp)
  | exponentDigits hs =>
    rw [NumberPart.next?] at hnext
    split at hnext
    · next hdigit =>
      obtain rfl := Option.some.inj hnext
      exact .exponentDigits (numberSoFar_digit (fun t _ ↦ hs t) (isSome_digit?_iff.1 hdigit))
    · exact absurd hnext (by simp)

/-! ### Containers so far -/

/-- The octets are items of an array, held backwards, with a comma behind each of them. -/
inductive ItemsBefore : List RawJson → Octets → Prop where
  /-- No item. -/
  | nil : ItemsBefore [] []
  /-- One more item. -/
  | cons {v : RawJson} {before : List RawJson} {s t : Octets} (hs : ItemsBefore before s)
      (ht : Document v t) : ItemsBefore (v :: before) (s ++ t ++ [0x2C])

/-- The octets are members of an object, held backwards, with a comma behind each of them. -/
inductive MembersBefore : List (Octets × RawJson) → Octets → Prop where
  /-- No member. -/
  | nil : MembersBefore [] []
  /-- One more member. -/
  | cons {k : Octets} {v : RawJson} {before : List (Octets × RawJson)} {s n t : Octets}
      (hs : MembersBefore before s) (hn : SpellsName k n) (ht : Document v t) :
      MembersBefore ((k, v) :: before) (s ++ (n ++ t) ++ [0x2C])

/-- Items go before items. -/
theorem ItemsBefore.spellsItems {before items : List RawJson} {s t : Octets}
    (hs : ItemsBefore before s) (ht : SpellsItems items t) :
    SpellsItems (before.reverse ++ items) (s ++ t) := by
  induction hs generalizing items t with
  | nil => exact ht
  | cons _ hv ih =>
    rw [List.reverse_cons, List.append_assoc, List.append_assoc, List.append_assoc]
    exact ih (.cons hv ht)

/-- Members go before members. -/
theorem MembersBefore.spellsMembers {before members : List (Octets × RawJson)} {s t : Octets}
    (hs : MembersBefore before s) (ht : SpellsMembers members t) :
    SpellsMembers (before.reverse ++ members) (s ++ t) := by
  induction hs generalizing members t with
  | nil => exact ht
  | cons _ hn hv ih =>
    rw [List.reverse_cons, List.append_assoc, List.append_assoc, List.append_assoc]
    exact ih (.cons hn hv ht)

/-- The octets lead into the open containers, up to the place where the innermost awaits a value. -/
inductive Opened : List Frame → Octets → Prop where
  /-- No container is open. -/
  | nil : Opened [] []
  /-- An array in which an item is awaited. -/
  | array {before : List RawJson} {frames : List Frame} {c b s : Octets} (hc : Opened frames c)
      (hb : IsBlank b) (hs : ItemsBefore before s) :
      Opened (.array before :: frames) (c ++ b ++ 0x5B :: s)
  /-- An object in which the value of a member is awaited. -/
  | object {before : List (Octets × RawJson)} {k : Octets} {frames : List Frame}
      {c b s n : Octets} (hc : Opened frames c) (hb : IsBlank b) (hs : MembersBefore before s)
      (hn : SpellsName k n) : Opened (.object before k :: frames) (c ++ b ++ 0x7B :: (s ++ n))

/-! ### Phases -/

/-- The octets are what the machine has read, in this phase, of the value that was awaited. -/
inductive PhaseCovers : Phase → Octets → Prop where
  | value {b : Octets} (hb : IsBlank b) : PhaseCovers .value b
  | firstItem {b a : Octets} (hb : IsBlank b) (ha : IsBlank a) :
      PhaseCovers .firstItem (b ++ 0x5B :: a)
  | name {before : List (Octets × RawJson)} {mayEnd : Bool} {b s a : Octets} (hb : IsBlank b)
      (hs : MembersBefore before s) (ha : IsBlank a) (hend : mayEnd = true → before = []) :
      PhaseCovers (.name before mayEnd) (b ++ 0x7B :: (s ++ a))
  | inName {before : List (Octets × RawJson)} {l : Octets} {e : Escape} {b s a : Octets}
      (hb : IsBlank b) (hs : MembersBefore before s) (ha : IsBlank a)
      (hl : TextSoFar e l.reverse) :
      PhaseCovers (.inName before l e) (b ++ 0x7B :: (s ++ (a ++ 0x22 :: l.reverse)))
  | colon {before : List (Octets × RawJson)} {k b s a c : Octets} (hb : IsBlank b)
      (hs : MembersBefore before s) (ha : IsBlank a) (hk : IsText k) (hc : IsBlank c) :
      PhaseCovers (.colon before k) (b ++ 0x7B :: (s ++ (a ++ 0x22 :: (k ++ 0x22 :: c))))
  | inText {l : Octets} {e : Escape} {b : Octets} (hb : IsBlank b) (hl : TextSoFar e l.reverse) :
      PhaseCovers (.inText l e) (b ++ 0x22 :: l.reverse)
  | inNumber {l : Octets} {part : NumberPart} {b : Octets} (hb : IsBlank b)
      (hl : NumberSoFar part l.reverse) : PhaseCovers (.inNumber l part) (b ++ l.reverse)
  | inWord {rest : List Char} {v : RawJson} {b w : Octets} (hb : IsBlank b)
      (hw : ∀ t : Octets, t.map charOf = rest → Spells v (w ++ t)) :
      PhaseCovers (.inWord rest v) (b ++ w)
  | complete {v : RawJson} {s : Octets} (hs : Document v s) : PhaseCovers (.complete v) s

/-- The octets bring the machine from its start to this state. -/
inductive Covers : Reader → Octets → Prop where
  /-- What leads into the open containers, and what the phase covers. -/
  | mk {frames : List Frame} {phase : Phase} {c s : Octets} (hc : Opened frames c)
      (hs : PhaseCovers phase s) : Covers ⟨frames, phase⟩ (c ++ s)

/-! ### One octet -/

variable {r r' : Reader} {c s : Octets}

/-- Where the phase covers one octet more, so does the state. -/
theorem Covers.of_phase {phase : Phase} (hc : Opened frames c) (hs : PhaseCovers phase (s ++ [o])) :
    Covers ⟨frames, phase⟩ (c ++ s ++ [o]) := by
  rw [List.append_assoc]
  exact .mk hc hs

theorem Document.concat (hs : Document v s) (ho : isSpace o = true) : Document v (s ++ [o]) := by
  cases hs with
  | mk hb hs ha =>
    rw [List.append_assoc]
    exact .mk hb hs (ha.concat ho)

/-- A value with blanks before it is a document. -/
theorem Document.of_spells {b : Octets} (hb : IsBlank b) (hs : Spells v s) :
    Document v (b ++ s) := by
  have hdocument := Document.mk hb hs isBlank_nil
  rwa [List.append_nil] at hdocument

/-- The first octet of a value, behind blanks. -/
theorem covers_of_beginValue? {b : Octets} (hc : Opened frames c) (hb : IsBlank b)
    (h : beginValue? frames o = some r) : Covers r (c ++ b ++ [o]) := by
  have hword {w : RawJson} {rest : List Char} {t : Octets} (ht : t.map charOf = rest)
      (hw : Spells w (o :: t)) : PhaseCovers (.inWord rest w) (b ++ [o]) := by
    refine .inWord hb fun u hu ↦ ?_
    obtain rfl := (List.map_inj_right fun _ _ h ↦ charOf_injective h).1 (hu.trans ht.symm)
    exact hw
  rw [beginValue?] at h
  split at h
  · next ho =>
    obtain rfl : o = 0x7B := eq_of_charOf ho rfl
    obtain rfl := Option.some.inj h
    have hname := PhaseCovers.name hb .nil isBlank_nil fun _ : true = true ↦ rfl
    exact .of_phase hc hname
  · next ho =>
    obtain rfl : o = 0x5B := eq_of_charOf ho rfl
    obtain rfl := Option.some.inj h
    exact .of_phase hc (.firstItem hb isBlank_nil)
  · next ho =>
    obtain rfl : o = 0x22 := eq_of_charOf ho rfl
    obtain rfl := Option.some.inj h
    exact .of_phase hc (.inText hb (.none .nil))
  · next ho =>
    obtain rfl : o = 0x2D := eq_of_charOf ho rfl
    obtain rfl := Option.some.inj h
    exact .of_phase hc (.inNumber hb .minus)
  · next ho =>
    obtain rfl : o = 0x30 := eq_of_charOf ho rfl
    obtain rfl := Option.some.inj h
    exact .of_phase hc (.inNumber hb (.zero (.positive .zero)))
  · next ho =>
    obtain rfl : o = 0x6E := eq_of_charOf ho rfl
    obtain rfl := Option.some.inj h
    exact .of_phase hc (hword (t := [0x75, 0x6C, 0x6C]) rfl .null)
  · next ho =>
    obtain rfl : o = 0x74 := eq_of_charOf ho rfl
    obtain rfl := Option.some.inj h
    exact .of_phase hc (hword (t := [0x72, 0x75, 0x65]) rfl .truth)
  · next ho =>
    obtain rfl : o = 0x66 := eq_of_charOf ho rfl
    obtain rfl := Option.some.inj h
    exact .of_phase hc (hword (t := [0x61, 0x6C, 0x73, 0x65]) rfl .falsehood)
  · next _ _ _ _ hzero _ _ _ =>
    split at h
    · next hdigit =>
      have hne : o ≠ 0x30 := by
        rintro rfl
        exact hzero rfl
      have hfirst := numberSoFar_first (s := []) (fun _ ↦ .positive)
        (isSome_digit?_iff.1 hdigit)
      rw [if_neg hne] at hfirst
      obtain rfl := Option.some.inj h
      exact .of_phase hc (.inNumber hb hfirst)
    · exact absurd h (by simp)

/-- An octet behind an item of an array: the item was one of several, or the last. -/
theorem covers_of_afterItem {before : List RawJson}
    (hc : Opened (.array before :: frames) c) (hs : Document v s)
    (h : o = 0x2C ∧ r = ⟨.array (v :: before) :: frames, .value⟩ ∨
      o = 0x5D ∧ r = ⟨frames, .complete (.array (v :: before).reverse)⟩) :
    Covers r (c ++ s ++ [o]) := by
  cases hc with
  | array hc hb ht =>
    rcases h with ⟨rfl, rfl⟩ | ⟨rfl, rfl⟩
    · have hcovers := Covers.mk (.array hc hb (ht.cons hs)) (.value isBlank_nil)
      simp only [List.append_assoc, List.cons_append, List.append_nil] at hcovers ⊢
      exact hcovers
    · have hdocument := Document.of_spells hb (.array (ht.spellsItems (.last hs)))
      have hcovers := Covers.mk hc (.complete hdocument)
      simp only [List.append_assoc, List.cons_append, List.reverse_cons] at hcovers ⊢
      exact hcovers

/-- An octet behind the value of a member: the member was one of several, or the last. -/
theorem covers_of_afterMember {before : List (Octets × RawJson)} {k : Octets}
    (hc : Opened (.object before k :: frames) c) (hs : Document v s)
    (h : o = 0x2C ∧ r = ⟨frames, .name ((k, v) :: before) false⟩ ∨
      o = 0x7D ∧ r = ⟨frames, .complete (.object ((k, v) :: before).reverse)⟩) :
    Covers r (c ++ s ++ [o]) := by
  cases hc with
  | object hc hb ht hn =>
    rcases h with ⟨rfl, rfl⟩ | ⟨rfl, rfl⟩
    · have hname : PhaseCovers (.name _ false) _ := .name hb (ht.cons hn hs) isBlank_nil nofun
      have hcovers := Covers.mk hc hname
      simp only [List.append_assoc, List.cons_append, List.append_nil] at hcovers ⊢
      exact hcovers
    · have hdocument := Document.of_spells hb (.object (ht.spellsMembers (.last hn hs)))
      have hcovers := Covers.mk hc (.complete hdocument)
      simp only [List.append_assoc, List.cons_append, List.reverse_cons] at hcovers ⊢
      exact hcovers

/-- An octet behind a value that may end. -/
theorem covers_of_afterValue? (hc : Opened frames c) (hs : Document v s)
    (h : afterValue? frames v o = some r) : Covers r (c ++ s ++ [o]) := by
  unfold afterValue? at h
  split at h
  · next hspace =>
    obtain rfl := Option.some.inj h
    exact .of_phase hc (.complete (hs.concat hspace))
  · split at h
    · next ho =>
      exact covers_of_afterItem hc hs (.inl ⟨eq_of_charOf ho rfl, (Option.some.inj h).symm⟩)
    · next ho =>
      exact covers_of_afterItem hc hs (.inr ⟨eq_of_charOf ho rfl, (Option.some.inj h).symm⟩)
    · next ho =>
      exact covers_of_afterMember hc hs (.inl ⟨eq_of_charOf ho rfl, (Option.some.inj h).symm⟩)
    · next ho =>
      exact covers_of_afterMember hc hs (.inr ⟨eq_of_charOf ho rfl, (Option.some.inj h).symm⟩)
    · exact absurd h (by simp)

/-! ### One octet in each phase -/

/-- Where a value is awaited, an octet is a blank or begins the value. -/
theorem covers_step?_value {b : Octets} (hc : Opened frames c) (hb : IsBlank b)
    (h : Reader.step? ⟨frames, .value⟩ o = some r) : Covers r (c ++ b ++ [o]) := by
  change (if isSpace o then _ else _) = _ at h
  split at h
  · next hspace =>
    obtain rfl := Option.some.inj h
    exact .of_phase hc (.value (hb.concat hspace))
  · exact covers_of_beginValue? hc hb h

/-- Behind an opening bracket, it may also end the array. -/
theorem covers_step?_firstItem {b a : Octets} (hc : Opened frames c) (hb : IsBlank b)
    (ha : IsBlank a) (h : Reader.step? ⟨frames, .firstItem⟩ o = some r) :
    Covers r (c ++ (b ++ 0x5B :: a) ++ [o]) := by
  rw [List.append_assoc, List.append_assoc, List.cons_append]
  change (if isSpace o then _ else if o = 0x5D then _ else _) = _ at h
  split at h
  · next hspace =>
    obtain rfl := Option.some.inj h
    exact .mk hc (.firstItem hb (ha.concat hspace))
  · split at h
    · next ho =>
      subst ho
      obtain rfl := Option.some.inj h
      exact .mk hc (.complete (.of_spells hb (.emptyArray ha)))
    · have hcovers := covers_of_beginValue? (.array hc hb .nil) ha h
      simp only [List.append_assoc, List.cons_append, List.nil_append] at hcovers
      exact hcovers

/-- Behind an opening brace or a comma, an octet is a blank, begins a name, or ends an object
without members. -/
theorem covers_step?_name {before : List (Octets × RawJson)} {mayEnd : Bool} {b t a : Octets}
    (hc : Opened frames c) (hb : IsBlank b) (ht : MembersBefore before t) (ha : IsBlank a)
    (hend : mayEnd = true → before = [])
    (h : Reader.step? ⟨frames, .name before mayEnd⟩ o = some r) :
    Covers r (c ++ (b ++ 0x7B :: (t ++ a)) ++ [o]) := by
  rw [List.append_assoc, List.append_assoc, List.cons_append, List.append_assoc]
  change (if isSpace o then _ else if o = 0x22 then _ else if o = 0x7D && mayEnd then _ else _) = _
    at h
  split at h
  · next hspace =>
    obtain rfl := Option.some.inj h
    exact .mk hc (.name hb ht (ha.concat hspace) hend)
  · split at h
    · next ho =>
      subst ho
      obtain rfl := Option.some.inj h
      exact .mk hc (.inName hb ht ha (.none .nil))
    · split at h
      · next ho =>
        rw [Bool.and_eq_true, decide_eq_true_eq] at ho
        obtain ⟨rfl, hmay⟩ := ho
        obtain rfl := hend hmay
        obtain rfl := Option.some.inj h
        cases ht with
        | nil => exact .mk hc (.complete (.of_spells hb (.emptyObject ha)))
      · exact absurd h (by simp)

theorem covers_step?_colon {before : List (Octets × RawJson)} {k b t a d : Octets}
    (hc : Opened frames c) (hb : IsBlank b) (ht : MembersBefore before t) (ha : IsBlank a)
    (hk : IsText k) (hd : IsBlank d)
    (h : Reader.step? ⟨frames, .colon before k⟩ o = some r) :
    Covers r (c ++ (b ++ 0x7B :: (t ++ (a ++ 0x22 :: (k ++ 0x22 :: d)))) ++ [o]) := by
  change (if isSpace o then _ else if o = 0x3A then _ else _) = _ at h
  split at h
  · next hspace =>
    obtain rfl := Option.some.inj h
    have hcovers := Covers.mk hc (.colon hb ht ha hk (hd.concat hspace))
    simp only [List.append_assoc, List.cons_append] at hcovers ⊢
    exact hcovers
  · split at h
    · next ho =>
      subst ho
      obtain rfl := Option.some.inj h
      have hcovers := Covers.mk (.object hc hb ht (.mk ha hk hd)) (.value isBlank_nil)
      simp only [List.append_assoc, List.cons_append, List.append_nil] at hcovers ⊢
      exact hcovers
    · exact absurd h (by simp)

/-- Inside a literal, an octet continues it or is the quotation mark at its end. -/
theorem IsLiteral.step?_eq_some {phase : Octets → Escape → Phase} (hp : IsLiteral phase)
    {l : Octets} {e : Escape} (hl : TextSoFar e l.reverse)
    (h : Reader.step? ⟨frames, phase l e⟩ o = some r) :
    (e = .none ∧ o = 0x22) ∨
      ∃ e', r = ⟨frames, phase (o :: l) e'⟩ ∧ TextSoFar e' (o :: l).reverse := by
  by_cases hquote : e = .none ∧ o = 0x22
  · exact .inl hquote
  · rw [not_and] at hquote
    rw [hp frames l e o hquote, Option.map_eq_some_iff] at h
    obtain ⟨e', hnext, rfl⟩ := h
    rw [List.reverse_cons]
    exact .inr ⟨e', rfl, hl.next? hnext hquote⟩

theorem TextSoFar.isText {l : Octets} (h : TextSoFar .none l) : IsText l := by
  cases h with
  | none hs => exact hs

/-- Inside a name, an octet goes on with it or ends it. -/
theorem covers_step?_inName {before : List (Octets × RawJson)} {l b t a : Octets} {e : Escape}
    (hc : Opened frames c) (hb : IsBlank b) (ht : MembersBefore before t) (ha : IsBlank a)
    (hl : TextSoFar e l.reverse) (h : Reader.step? ⟨frames, .inName before l e⟩ o = some r) :
    Covers r (c ++ (b ++ 0x7B :: (t ++ (a ++ 0x22 :: l.reverse))) ++ [o]) := by
  rcases (isLiteral_inName before).step?_eq_some hl h with ⟨rfl, rfl⟩ | ⟨e', rfl, hl'⟩
  · obtain rfl := Option.some.inj h
    have hcovers := Covers.mk hc (.colon hb ht ha hl.isText isBlank_nil)
    simp only [List.append_assoc, List.cons_append] at hcovers ⊢
    exact hcovers
  · have hcovers := Covers.mk hc (.inName hb ht ha hl')
    simp only [List.append_assoc, List.cons_append, List.reverse_cons] at hcovers ⊢
    exact hcovers

theorem covers_step?_inText {l b : Octets} {e : Escape} (hc : Opened frames c) (hb : IsBlank b)
    (hl : TextSoFar e l.reverse) (h : Reader.step? ⟨frames, .inText l e⟩ o = some r) :
    Covers r (c ++ (b ++ 0x22 :: l.reverse) ++ [o]) := by
  rw [List.append_assoc, List.append_assoc, List.cons_append]
  rcases isLiteral_inText.step?_eq_some hl h with ⟨rfl, rfl⟩ | ⟨e', rfl, hl'⟩
  · obtain rfl := Option.some.inj h
    exact .mk hc (.complete (.of_spells hb (.text hl.isText)))
  · rw [← List.reverse_cons]
    exact .mk hc (.inText hb hl')

/-- Inside a number, an octet goes on with it, or it ends the number and is taken behind it. -/
theorem covers_step?_inNumber {l b : Octets} {part : NumberPart} (hc : Opened frames c)
    (hb : IsBlank b) (hl : NumberSoFar part l.reverse)
    (h : Reader.step? ⟨frames, .inNumber l part⟩ o = some r) :
    Covers r (c ++ (b ++ l.reverse) ++ [o]) := by
  rw [Reader.step?] at h
  cases hnext : part.next? o with
  | some part' =>
    simp only [hnext] at h
    obtain rfl := Option.some.inj h
    have hl' := hl.next? hnext
    rw [List.append_assoc, List.append_assoc]
    rw [← List.reverse_cons] at hl' ⊢
    exact .mk hc (.inNumber hb hl')
  | none =>
    simp only [hnext] at h
    split at h
    · next hend => exact covers_of_afterValue? hc (.of_spells hb (.number (hl.isNumber hend))) h
    · exact absurd h (by simp)

theorem covers_step?_inWord {rest : List Char} {b w : Octets} (hc : Opened frames c)
    (hb : IsBlank b) (hw : ∀ t : Octets, t.map charOf = rest → Spells v (w ++ t))
    (h : Reader.step? ⟨frames, .inWord rest v⟩ o = some r) : Covers r (c ++ (b ++ w) ++ [o]) := by
  rw [List.append_assoc, List.append_assoc]
  match rest with
  | [] => exact absurd h (by simp [Reader.step?])
  | [d] =>
    change (if charOf o = d then _ else _) = _ at h
    split at h
    · next ho =>
      obtain rfl := Option.some.inj h
      exact .mk hc (.complete (.of_spells hb (hw [o] (congrArg ([·]) ho))))
    · exact absurd h (by simp)
  | d :: d' :: rest =>
    change (if charOf o = d then _ else _) = _ at h
    split at h
    · next ho =>
      obtain rfl := Option.some.inj h
      refine .mk hc (.inWord hb fun t ht ↦ ?_)
      rw [List.append_assoc]
      refine hw ([o] ++ t) ?_
      rw [List.singleton_append, List.map_cons, ho, ht]
    · exact absurd h (by simp)

/-- **One octet keeps what the state says.** -/
theorem Covers.step? (h : Covers r s) (hstep : r.step? o = some r') : Covers r' (s ++ [o]) := by
  cases h with
  | mk hc hs =>
    cases hs with
    | value hb => exact covers_step?_value hc hb hstep
    | firstItem hb ha => exact covers_step?_firstItem hc hb ha hstep
    | name hb ht ha hend => exact covers_step?_name hc hb ht ha hend hstep
    | inName hb ht ha hl => exact covers_step?_inName hc hb ht ha hl hstep
    | colon hb ht ha hk hd => exact covers_step?_colon hc hb ht ha hk hd hstep
    | inText hb hl => exact covers_step?_inText hc hb hl hstep
    | inNumber hb hl => exact covers_step?_inNumber hc hb hl hstep
    | inWord hb hw => exact covers_step?_inWord hc hb hw hstep
    | complete hs => exact covers_of_afterValue? hc hs hstep

/-! ### Whole documents -/

/-- By induction on the octets, a run keeps what one octet keeps. -/
theorem Covers.run? {t : Octets} (h : Covers r s) (hrun : r.run? t = some r') :
    Covers r' (s ++ t) := by
  induction t generalizing r s with
  | nil =>
    obtain rfl := Option.some.inj hrun
    rwa [List.append_nil]
  | cons o t ih =>
    rw [Reader.run?_cons] at hrun
    obtain ⟨r₁, hstep, hrun⟩ := Option.bind_eq_some_iff.1 hrun
    rw [← List.singleton_append, ← List.append_assoc]
    exact ih (h.step? hstep) hrun

/-- A state with a result covers a document. -/
theorem Covers.document (h : Covers r s) (hresult : r.result? = some v) : Document v s := by
  cases h with
  | @mk frames phase c s hc hs =>
    unfold Reader.result? at hresult
    split at hresult
    · next hframes hphase =>
      obtain rfl : frames = [] := hframes
      obtain rfl : phase = .complete _ := hphase
      obtain rfl := Option.some.inj hresult
      cases hc with
      | nil =>
        cases hs with
        | complete hs => exact hs
    · next hframes hphase =>
      obtain rfl : frames = [] := hframes
      obtain rfl : phase = .inNumber _ _ := hphase
      split at hresult
      · next hend =>
        obtain rfl := Option.some.inj hresult
        cases hc with
        | nil =>
          cases hs with
          | inNumber hb hl =>
            rw [List.nil_append]
            exact .of_spells hb (.number (hl.isNumber hend))
      · exact absurd hresult (by simp)
    · exact absurd hresult (by simp)

/-- **Exactly the documents of the grammar are read.** -/
theorem read?_eq_some_iff : read? s = some v ↔ Document v s := by
  refine ⟨fun h ↦ ?_, read?_of_document⟩
  obtain ⟨r, hrun, hresult⟩ := Option.bind_eq_some_iff.1 h
  have hstart : Covers ⟨[], .value⟩ ([] ++ []) := .mk .nil (.value isBlank_nil)
  exact (hstart.run? hrun).document hresult

end Concordance.Json
