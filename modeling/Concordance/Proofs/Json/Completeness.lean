import Concordance.Proofs.Json.Grammar

/-!
# Documents are read

The machine is followed over what the grammar spells, one part at a time. Every statement leaves the
open containers, and what they hold so far, arbitrary, and says in which state the machine is at the
end of the part; so the parts of a document can be put together by `Reader.run?_append`.

A value is *settled* when the machine has either completed it or is inside a number that may end
there (`Settled`): from both, whatever ends the value is taken in the same way, and blanks do not
matter (`Settled.exists_run?_blank`). A text and the name of a member are read alike, which
`IsLiteral` says of their phases.
-/

namespace Concordance.Json

/-! ### Runs -/

namespace Reader

theorem run?_nil (r : Reader) : r.run? [] = some r := rfl

theorem run?_cons (r : Reader) (o : UInt8) (s : Octets) :
    r.run? (o :: s) = (r.step? o).bind (·.run? s) := rfl

theorem run?_cons_of_step {r r' : Reader} {o : UInt8} (h : r.step? o = some r') (s : Octets) :
    r.run? (o :: s) = r'.run? s := by
  rw [run?_cons, h, Option.bind_some]

/-- A part that is read can be followed by the next one: runs are put together with this. -/
theorem run?_append_of_run {r r' : Reader} {s : Octets} (h : r.run? s = some r') (t : Octets) :
    r.run? (s ++ t) = r'.run? t := by
  rw [run?_append, h, Option.bind_some]

end Reader

variable {frames : List Frame} {s t : Octets} {o : UInt8} {v : RawJson}

/-! ### Octets -/

/-- What holds of 256 numbers holds of all octets. -/
theorem forall_octet {p : UInt8 → Prop} (h : ∀ n < 256, p (UInt8.ofNat n)) (o : UInt8) :
    p o := by
  have ho := h o.toNat o.toNat_lt
  rwa [UInt8.ofNat_toNat] at ho

theorem isSome_digit?_iff : (digit? o).isSome = true ↔ IsDigit o :=
  forall_octet (p := fun o ↦ (digit? o).isSome = true ↔ IsDigit o) (by decide +kernel) o

theorem isSome_hexDigit?_iff : (hexDigit? o).isSome = true ↔ IsHexDigit o :=
  forall_octet (p := fun o ↦ (hexDigit? o).isSome = true ↔ IsHexDigit o) (by decide +kernel) o

theorem isSome_shortEscape?_iff : (shortEscape? o).isSome = true ↔ IsShortEscape o :=
  forall_octet (p := fun o ↦ (shortEscape? o).isSome = true ↔ IsShortEscape o)
    (by decide +kernel) o

/-! ### Blanks -/

/-- Blanks are passed over in this phase. -/
def TakesBlanks (phase : Phase) : Prop :=
  ∀ frames o, isSpace o = true → Reader.step? ⟨frames, phase⟩ o = some ⟨frames, phase⟩

theorem takesBlanks_value : TakesBlanks .value := fun _ _ h ↦ if_pos h

theorem takesBlanks_firstItem : TakesBlanks .firstItem := fun _ _ h ↦ if_pos h

theorem takesBlanks_name (before : List (Octets × RawJson)) (mayEnd : Bool) :
    TakesBlanks (.name before mayEnd) := fun _ _ h ↦ if_pos h

theorem takesBlanks_colon (before : List (Octets × RawJson)) (name : Octets) :
    TakesBlanks (.colon before name) := fun _ _ h ↦ if_pos h

theorem takesBlanks_complete (v : RawJson) : TakesBlanks (.complete v) := fun _ _ h ↦ if_pos h

/-- Any number of blanks leave such a phase as it is. -/
theorem TakesBlanks.run? {phase : Phase} (h : TakesBlanks phase) (hs : IsBlank s) :
    Reader.run? ⟨frames, phase⟩ s = some ⟨frames, phase⟩ := by
  induction s with
  | nil => rfl
  | cons o s ih =>
    obtain ⟨ho, hs⟩ := List.forall_mem_cons.1 hs
    rw [Reader.run?_cons_of_step (h frames o ho), ih hs]

/-! ### Texts -/

/-- Inside a literal, every octet but the quotation mark at its end is taken in turn. -/
def IsLiteral (phase : Octets → Escape → Phase) : Prop :=
  ∀ frames literal escape o, (escape = .none → o ≠ 0x22) →
    Reader.step? ⟨frames, phase literal escape⟩ o =
      (escape.next? o).map fun e ↦ ⟨frames, phase (o :: literal) e⟩

/-- A text is a literal: only its closing quotation mark is taken in another way. -/
theorem isLiteral_inText : IsLiteral .inText := by
  intro frames literal escape o ho
  cases escape with
  | none => exact if_neg (ho rfl)
  | begun => rfl
  | digits n => rfl

/-- And so is the name of a member. -/
theorem isLiteral_inName (before : List (Octets × RawJson)) : IsLiteral (.inName before) := by
  intro frames literal escape o ho
  cases escape with
  | none => exact if_neg (ho rfl)
  | begun => rfl
  | digits n => rfl

namespace IsLiteral

variable {phase : Octets → Escape → Phase}

/-- One octet inside a literal is kept, and the state of the escape moves on. -/
theorem step?_next (h : IsLiteral phase) {literal : Octets} {escape e : Escape} {o : UInt8}
    (hnext : escape.next? o = some e) (ho : escape = .none → o ≠ 0x22) :
    Reader.step? ⟨frames, phase literal escape⟩ o = some ⟨frames, phase (o :: literal) e⟩ := by
  rw [h frames literal escape o ho, hnext]
  rfl

theorem step?_backslash (h : IsLiteral phase) (literal : Octets) :
    Reader.step? ⟨frames, phase literal .none⟩ 0x5C =
      some ⟨frames, phase (0x5C :: literal) .begun⟩ :=
  h.step?_next rfl fun _ ↦ by decide

/-- A digit of a numbered character is taken, and the last of them ends the escape. -/
theorem step?_hexDigit (h : IsLiteral phase) (frames : List Frame) (ho : IsHexDigit o)
    (literal : Octets) (n : Nat) :
    Reader.step? ⟨frames, phase literal (.digits n)⟩ o =
      some ⟨frames, phase (o :: literal) (if n ≤ 1 then .none else .digits (n - 1))⟩ :=
  h.step?_next (if_pos (isSome_hexDigit?_iff.2 ho)) nofun

/-- Four hexadecimal digits are taken one by one. -/
theorem run?_hexDigits (h : IsLiteral phase) {a b c d : UInt8} (ha : IsHexDigit a)
    (hb : IsHexDigit b) (hc : IsHexDigit c) (hd : IsHexDigit d) (literal : Octets) :
    Reader.run? ⟨frames, phase literal (.digits 4)⟩ (a :: b :: c :: d :: s) =
      Reader.run? ⟨frames, phase (d :: c :: b :: a :: literal) .none⟩ s := by
  have h4 := h.step?_hexDigit frames ha literal 4
  have h3 := h.step?_hexDigit frames hb (a :: literal) 3
  have h2 := h.step?_hexDigit frames hc (b :: a :: literal) 2
  have h1 := h.step?_hexDigit frames hd (c :: b :: a :: literal) 1
  rw [Reader.run?_cons_of_step h4]
  exact (Reader.run?_cons_of_step h3 _).trans
    ((Reader.run?_cons_of_step h2 _).trans (Reader.run?_cons_of_step h1 _))

/-- The inside of a text is taken whole. -/
theorem run?_of_isText (h : IsLiteral phase) (hs : IsText s) (literal : Octets) :
    Reader.run? ⟨frames, phase literal .none⟩ s =
      some ⟨frames, phase (s.reverse ++ literal) .none⟩ := by
  induction hs generalizing literal with
  | nil => rfl
  | @plain o s hquote hslash hcontrol _ ih =>
    have hnext : Escape.none.next? o = some .none := by
      rw [Escape.next?, if_neg hslash, if_neg (UInt8.not_lt.2 hcontrol)]
    rw [Reader.run?_cons_of_step (h.step?_next hnext fun _ ↦ hquote), ih, List.reverse_cons,
      List.append_assoc]
    rfl
  | @short o s ho _ ih =>
    have hne : o ≠ 0x75 := by
      rintro rfl
      exact absurd ho (by decide)
    have hnext : Escape.begun.next? o = some .none := by
      rw [Escape.next?, if_neg hne, if_pos (isSome_shortEscape?_iff.2 ho)]
    rw [Reader.run?_cons_of_step (h.step?_backslash literal),
      Reader.run?_cons_of_step (h.step?_next hnext nofun), ih, List.reverse_cons, List.reverse_cons,
      List.append_assoc, List.append_assoc]
    rfl
  | @unit a b c d s ha hb hc hd _ ih =>
    have hletter : Escape.begun.next? 0x75 = some (.digits 4) := rfl
    rw [Reader.run?_cons_of_step (h.step?_backslash literal),
      Reader.run?_cons_of_step (h.step?_next hletter nofun), h.run?_hexDigits ha hb hc hd, ih]
    simp only [List.reverse_cons, List.append_assoc]
    rfl

end IsLiteral

/-! ### Numbers -/

namespace NumberPart

variable {part : NumberPart}

/-- The part of a number literal that the machine is in behind further octets. -/
def run? (part : NumberPart) (s : Octets) : Option NumberPart :=
  s.foldlM next? part

/-- The part that digits lead to, and that further digits do not leave. -/
def ofDigits : NumberPart → NumberPart
  | minus | zero | integer => integer
  | point | fraction => fraction
  | exponent | exponentSign | exponentDigits => exponentDigits

/-- **A digit leads to the part of digits**, except behind a leading zero and as one. -/
theorem next?_digit (hzero : part ≠ .zero) (hminus : part = .minus → o ≠ 0x30) (ho : IsDigit o) :
    part.next? o = some part.ofDigits := by
  have hdigit : (digit? o).isSome = true := isSome_digit?_iff.2 ho
  cases part with
  | minus => rw [next?, if_neg (hminus rfl), if_pos hdigit, ofDigits]
  | zero => exact absurd rfl hzero
  | exponent =>
    -- The signs are asked for first, and neither is a digit.
    have hplus : o ≠ 0x2B := by
      rintro rfl
      exact absurd ho (by decide)
    have hdash : o ≠ 0x2D := by
      rintro rfl
      exact absurd ho (by decide)
    rw [next?, if_neg (by simp [hplus, hdash]), if_pos hdigit, ofDigits]
  | integer | point | fraction | exponentSign | exponentDigits => exact if_pos hdigit

/-- Digits do not leave a part that consists of digits. -/
theorem run?_digits (hpart : part.ofDigits = part) (hs : AllDigits s) : part.run? s = some part := by
  have hzero : part ≠ .zero := by
    rintro rfl
    cases hpart
  have hminus : part ≠ .minus := by
    rintro rfl
    cases hpart
  induction s with
  | nil => rfl
  | cons o s ih =>
    obtain ⟨ho, hs⟩ := List.forall_mem_cons.1 hs
    rw [run?, List.foldlM_cons, next?_digit hzero (absurd · hminus) ho, hpart]
    exact ih hs

/-- One or more digits lead to the part of digits. -/
theorem run?_someDigits (hzero : part ≠ .zero) (hminus : part ≠ .minus) (hne : s ≠ [])
    (hs : AllDigits s) : part.run? s = some part.ofDigits := by
  have hdigits : part.ofDigits.ofDigits = part.ofDigits := by cases part <;> rfl
  obtain ⟨o, s, rfl⟩ := List.exists_cons_of_ne_nil hne
  obtain ⟨ho, hs⟩ := List.forall_mem_cons.1 hs
  rw [run?, List.foldlM_cons, next?_digit hzero (absurd · hminus) ho]
  exact run?_digits hdigits hs

end NumberPart

/-- Wherever a value is awaited, the octets are the beginning of a number, and the machine is in
this part of it behind them. -/
def BeginsNumber (s : Octets) (part : NumberPart) : Prop :=
  ∀ frames, Reader.run? ⟨frames, .value⟩ s = some ⟨frames, .inNumber s.reverse part⟩

/-- **A number is followed part by part.** What the machine has of it is kept, whatever containers
are open. -/
theorem BeginsNumber.append {part part' : NumberPart} (h : BeginsNumber s part)
    (ht : part.run? t = some part') : BeginsNumber (s ++ t) part' := by
  have hnumber (l : Octets) (frames : List Frame) :
      Reader.run? ⟨frames, .inNumber l part⟩ t =
        some ⟨frames, .inNumber (t.reverse ++ l) part'⟩ := by
    clear h
    induction t generalizing l part with
    | nil =>
      obtain rfl := Option.some.inj ht
      rfl
    | cons o t ih =>
      obtain ⟨part₁, hnext, ht⟩ := Option.bind_eq_some_iff.1 ht
      have hstep : Reader.step? ⟨frames, .inNumber l part⟩ o =
          some ⟨frames, .inNumber (o :: l) part₁⟩ := by
        rw [Reader.step?]
        simp only [hnext]
      rw [Reader.run?_cons_of_step hstep, ih ht, List.reverse_cons, List.append_assoc]
      rfl
  intro frames
  rw [Reader.run?_append_of_run (h frames), hnumber, List.reverse_append]

private theorem mem_of_isDigit (ho : IsDigit o) :
    o ∈ [0x30, 0x31, 0x32, 0x33, 0x34, 0x35, 0x36, 0x37, 0x38, 0x39] :=
  forall_octet (p := fun o ↦ IsDigit o → o ∈ [0x30, 0x31, 0x32, 0x33, 0x34, 0x35, 0x36, 0x37, 0x38,
    0x39]) (by decide +kernel) o ho

/-- A digit begins a number. -/
theorem step?_digit (ho : IsDigit o) (frames : List Frame) :
    Reader.step? ⟨frames, .value⟩ o =
      some ⟨frames, .inNumber [o] (if o = 0x30 then .zero else .integer)⟩ := by
  have hmem := mem_of_isDigit ho
  simp only [List.mem_cons, List.not_mem_nil, or_false] at hmem
  rcases hmem with rfl | rfl | rfl | rfl | rfl | rfl | rfl | rfl | rfl | rfl <;> rfl

/-- A leading zero is told apart from the other digits at once. -/
theorem beginsNumber_digit (ho : IsDigit o) :
    BeginsNumber [o] (if o = 0x30 then .zero else .integer) :=
  fun frames ↦ Reader.run?_cons_of_step (step?_digit ho frames) []

theorem beginsNumber_minus : BeginsNumber [0x2D] .minus := fun _ ↦ rfl

/-- Behind a minus sign, the digits before a point are taken whole. -/
theorem IsInteger.exists_run?_minus (h : IsInteger s) :
    ∃ part : NumberPart, (part = .zero ∨ part = .integer) ∧
      NumberPart.minus.run? s = some part := by
  cases h with
  | zero => exact ⟨.zero, .inl rfl, rfl⟩
  | @digits o s ho hne hs =>
    refine ⟨.integer, .inr rfl, ?_⟩
    have hfirst : NumberPart.minus.next? o = some .integer :=
      NumberPart.next?_digit nofun (fun _ ↦ hne) ho
    rw [NumberPart.run?, List.foldlM_cons, hfirst]
    exact NumberPart.run?_digits rfl hs

/-- And so they are where a value is awaited. -/
theorem IsInteger.exists_beginsNumber (h : IsInteger s) :
    ∃ part : NumberPart, (part = .zero ∨ part = .integer) ∧ BeginsNumber s part := by
  cases h with
  | zero => exact ⟨.zero, .inl rfl, beginsNumber_digit (by decide)⟩
  | @digits o s ho hne hs =>
    have hfirst := beginsNumber_digit ho
    rw [if_neg hne] at hfirst
    exact ⟨.integer, .inr rfl,
      hfirst.append (NumberPart.run?_digits rfl hs)⟩

/-- With or without a sign, the digits before a point end in one of two parts. -/
theorem IsSigned.exists_beginsNumber (h : IsSigned s) :
    ∃ part : NumberPart, (part = .zero ∨ part = .integer) ∧ BeginsNumber s part := by
  cases h with
  | positive hs => exact hs.exists_beginsNumber
  | negative hs =>
    obtain ⟨part, hpart, hrun⟩ := hs.exists_run?_minus
    exact ⟨part, hpart, beginsNumber_minus.append hrun⟩

/-- A number without an exponent ends in one of three parts, and from each of them an exponent may
follow. -/
theorem IsDecimal.exists_beginsNumber (h : IsDecimal s) :
    ∃ part : NumberPart, (part = .zero ∨ part = .integer ∨ part = .fraction) ∧
      BeginsNumber s part := by
  cases h with
  | integer hs =>
    obtain ⟨part, hpart, hbegins⟩ := hs.exists_beginsNumber
    exact ⟨part, hpart.imp_right .inl, hbegins⟩
  | fraction hs hne ht =>
    obtain ⟨part, hpart, hbegins⟩ := hs.exists_beginsNumber
    have hpoint : part.next? 0x2E = some .point := by
      rcases hpart with rfl | rfl <;> rfl
    refine ⟨.fraction, .inr (.inr rfl), hbegins.append ?_⟩
    rw [NumberPart.run?, List.foldlM_cons, hpoint]
    exact NumberPart.run?_someDigits nofun nofun hne ht

/-- **A number is taken whole, and may end where it ends.** -/
theorem IsNumber.exists_beginsNumber (h : IsNumber s) :
    ∃ part : NumberPart, part.mayEnd = true ∧ BeginsNumber s part := by
  cases h with
  | decimal hs =>
    obtain ⟨part, hpart, hbegins⟩ := hs.exists_beginsNumber
    exact ⟨part, by rcases hpart with rfl | rfl | rfl <;> rfl, hbegins⟩
  | exponent hs hm hne ht =>
    obtain ⟨part, hpart, hbegins⟩ := hs.exists_beginsNumber
    have hletter {e : UInt8} (he : e = 0x65 ∨ e = 0x45) : part.next? e = some .exponent := by
      rcases he with rfl | rfl <;> rcases hpart with rfl | rfl | rfl <;> rfl
    refine ⟨.exponentDigits, rfl, ?_⟩
    cases hm with
    | plain he =>
      have hrun : part.run? [_] = some .exponent :=
        (congrArg (Option.bind · _) (hletter he)).trans rfl
      exact (hbegins.append hrun).append
        (NumberPart.run?_someDigits nofun nofun hne ht)
    | @signed e o he ho =>
      have hsign : NumberPart.exponent.next? o = some .exponentSign := by
        rcases ho with rfl | rfl <;> rfl
      have hrun : part.run? [e, o] = some .exponentSign := by
        rw [NumberPart.run?, List.foldlM_cons, hletter he]
        exact (congrArg (Option.bind · _) hsign).trans rfl
      exact (hbegins.append hrun).append
        (NumberPart.run?_someDigits nofun nofun hne ht)

/-! ### Settled values -/

/-- The machine has read the value `v` as far as it is written, inside the given containers. -/
inductive Settled (frames : List Frame) : RawJson → Reader → Prop where
  /-- The value is complete. -/
  | complete (v : RawJson) : Settled frames v ⟨frames, .complete v⟩
  /-- The value is a number, which may end here. -/
  | number (literal : Octets) {part : NumberPart} (h : part.mayEnd = true) :
      Settled frames (.number literal.reverse) ⟨frames, .inNumber literal part⟩

/-- Outside all containers a settled value is the result, whether it was completed or not. -/
theorem Settled.result? {r : Reader} (h : Settled [] v r) : r.result? = some v := by
  cases h with
  | complete => rfl
  | number literal h => exact if_pos h

/-- What ends a number ends a settled value. -/
theorem Settled.step?_eq {r : Reader} (h : Settled frames v r)
    (ho : ∀ part : NumberPart, part.next? o = none) : r.step? o = afterValue? frames v o := by
  cases h with
  | complete => rfl
  | @number literal part h =>
    rw [Reader.step?]
    simp only [ho part]
    exact if_pos h

/-- A comma and the end of a container end a number, whatever part of it has been read. -/
theorem next?_of_mem (ho : o ∈ [0x2C, 0x5D, 0x7D]) (part : NumberPart) : part.next? o = none := by
  simp only [List.mem_cons, List.not_mem_nil, or_false] at ho
  rcases ho with rfl | rfl | rfl <;> cases part <;> rfl

private theorem mem_of_isSpace (ho : isSpace o = true) : o ∈ [0x20, 0x09, 0x0A, 0x0D] :=
  forall_octet (p := fun o ↦ isSpace o = true → o ∈ [0x20, 0x09, 0x0A, 0x0D]) (by decide +kernel)
    o ho

/-- And so does a blank. -/
theorem next?_of_isSpace (ho : isSpace o = true) (part : NumberPart) : part.next? o = none := by
  have hmem := mem_of_isSpace ho
  simp only [List.mem_cons, List.not_mem_nil, or_false] at hmem
  rcases hmem with rfl | rfl | rfl | rfl <;> cases part <;> rfl

/-- A value that is settled is still settled behind blanks. -/
theorem Settled.exists_run?_blank {r : Reader} (h : Settled frames v r) (hs : IsBlank s) :
    ∃ r', r.run? s = some r' ∧ Settled frames v r' := by
  cases s with
  | nil => exact ⟨r, rfl, h⟩
  | cons o s =>
    obtain ⟨ho, hs⟩ := List.forall_mem_cons.1 hs
    have hstep : r.step? o = some ⟨frames, .complete v⟩ :=
      (h.step?_eq (next?_of_isSpace ho)).trans (if_pos ho)
    refine ⟨⟨frames, .complete v⟩, ?_, .complete v⟩
    rw [Reader.run?_cons_of_step hstep, (takesBlanks_complete v).run? hs]

/-- The machine reads the octets as the value `v` wherever a value is awaited. -/
def ReadsAs (v : RawJson) (s : Octets) : Prop :=
  ∀ frames, ∃ r, Reader.run? ⟨frames, .value⟩ s = some r ∧ Settled frames v r

/-- All values but numbers show their end themselves, so that the machine completes them. -/
theorem readsAs_of_complete
    (h : ∀ frames, Reader.run? ⟨frames, .value⟩ s = some ⟨frames, .complete v⟩) : ReadsAs v s :=
  fun frames ↦ ⟨_, h frames, .complete v⟩

/-- Blanks around a value do not matter. -/
theorem readsAs_document (h : ∀ s, Spells v s → ReadsAs v s) (hs : Document v s) : ReadsAs v s := by
  cases hs with
  | mk hb hs ha =>
    intro frames
    obtain ⟨r, hrun, hsettled⟩ := h _ hs frames
    obtain ⟨r', hblank, hsettled'⟩ := hsettled.exists_run?_blank ha
    refine ⟨r', ?_, hsettled'⟩
    rw [List.append_assoc, Reader.run?_append_of_run (takesBlanks_value.run? hb),
      Reader.run?_append_of_run hrun, hblank]

/-- A number is read as it is written, but only what follows it completes it. -/
theorem readsAs_number (h : IsNumber s) : ReadsAs (.number s) s := by
  obtain ⟨part, hend, hbegins⟩ := h.exists_beginsNumber
  intro frames
  have hsettled := @Settled.number frames s.reverse part hend
  rw [List.reverse_reverse] at hsettled
  exact ⟨_, hbegins frames, hsettled⟩

/-- A text is read as what stands between its quotation marks. -/
theorem readsAs_text (h : IsText s) : ReadsAs (.text s) (0x22 :: (s ++ [0x22])) := by
  refine readsAs_of_complete fun frames ↦ ?_
  have hbegin : Reader.step? ⟨frames, .value⟩ 0x22 = some ⟨frames, .inText [] .none⟩ := rfl
  have hend : Reader.step? ⟨frames, .inText (s.reverse ++ []) .none⟩ 0x22 =
      some ⟨frames, .complete (.text (s.reverse ++ []).reverse)⟩ := rfl
  rw [List.append_nil, List.reverse_reverse] at hend
  rw [Reader.run?_cons_of_step hbegin,
    Reader.run?_append_of_run (isLiteral_inText.run?_of_isText h []), List.append_nil,
    Reader.run?_cons_of_step hend, Reader.run?_nil]

/-! ### Containers -/

/-- The name of a member is read up to the value after it. -/
theorem run?_of_spellsName {k n : Octets} (h : SpellsName k n) (frames : List Frame)
    (before : List (Octets × RawJson)) (mayEnd : Bool) :
    Reader.run? ⟨frames, .name before mayEnd⟩ n =
      some ⟨.object before k :: frames, .value⟩ := by
  cases h with
  | mk hb hk ha =>
    have hbegin : Reader.step? ⟨frames, .name before mayEnd⟩ 0x22 =
        some ⟨frames, .inName before [] .none⟩ := rfl
    have hend : Reader.step? ⟨frames, .inName before (k.reverse ++ []) .none⟩ 0x22 =
        some ⟨frames, .colon before (k.reverse ++ []).reverse⟩ := rfl
    have hcolon : Reader.step? ⟨frames, .colon before k⟩ 0x3A =
        some ⟨.object before k :: frames, .value⟩ := rfl
    rw [List.append_nil, List.reverse_reverse] at hend
    rw [Reader.run?_append_of_run ((takesBlanks_name before mayEnd).run? hb),
      Reader.run?_cons_of_step hbegin,
      Reader.run?_append_of_run ((isLiteral_inName before).run?_of_isText hk []), List.append_nil,
      Reader.run?_cons_of_step hend,
      Reader.run?_append_of_run ((takesBlanks_colon before k).run? ha),
      Reader.run?_cons_of_step hcolon, Reader.run?_nil]

theorem IsInteger.exists_cons (h : IsInteger s) : ∃ o t, s = o :: t ∧ IsDigit o := by
  cases h with
  | zero => exact ⟨_, _, rfl, by decide⟩
  | digits ho _ _ => exact ⟨_, _, rfl, ho⟩

theorem IsSigned.exists_cons (h : IsSigned s) : ∃ o t, s = o :: t ∧ (IsDigit o ∨ o = 0x2D) := by
  cases h with
  | positive hs =>
    obtain ⟨o, t, rfl, ho⟩ := hs.exists_cons
    exact ⟨o, t, rfl, .inl ho⟩
  | negative => exact ⟨_, _, rfl, .inr rfl⟩

/-- A number begins with a digit or a minus sign, by which it is told from blanks and brackets. -/
theorem IsNumber.exists_cons (h : IsNumber s) : ∃ o t, s = o :: t ∧ (IsDigit o ∨ o = 0x2D) := by
  have hdecimal {s : Octets} (h : IsDecimal s) : ∃ o t, s = o :: t ∧ (IsDigit o ∨ o = 0x2D) := by
    cases h with
    | integer hs => exact hs.exists_cons
    | fraction hs =>
      obtain ⟨o, t, rfl, ho⟩ := hs.exists_cons
      exact ⟨o, _, rfl, ho⟩
  cases h with
  | decimal hs => exact hdecimal hs
  | exponent hs =>
    obtain ⟨o, t, rfl, ho⟩ := hdecimal hs
    exact ⟨o, _, rfl, ho⟩

/-- A value begins with neither a blank nor the end of an array. -/
theorem Spells.exists_cons (h : Spells v s) :
    ∃ o t, s = o :: t ∧ isSpace o = false ∧ o ≠ 0x5D := by
  cases h with
  | number hl =>
    obtain ⟨o, t, rfl, ho⟩ := hl.exists_cons
    refine ⟨o, t, rfl, ?_⟩
    rcases ho with ho | rfl
    · exact forall_octet (p := fun o ↦ IsDigit o → isSpace o = false ∧ o ≠ 0x5D)
        (by decide +kernel) o ho
    · exact ⟨rfl, by decide⟩
  | null | truth | falsehood | text | emptyArray | array | emptyObject | object =>
    exact ⟨_, _, rfl, rfl, by decide⟩

/-- Behind blanks, the first item of an array begins with neither a blank nor its end. -/
theorem SpellsItems.exists_eq {items : List RawJson} (h : SpellsItems items s) :
    ∃ b o t, s = b ++ o :: t ∧ IsBlank b ∧ isSpace o = false ∧ o ≠ 0x5D := by
  have hdocument {v : RawJson} {s : Octets} (h : Document v s) :
      ∃ b o t, s = b ++ o :: t ∧ IsBlank b ∧ isSpace o = false ∧ o ≠ 0x5D := by
    cases h with
    | @mk _ b _ a hb hs =>
      obtain ⟨o, t, rfl, hspace, hne⟩ := hs.exists_cons
      exact ⟨b, o, t ++ a, List.append_assoc _ _ _, hb, hspace, hne⟩
  cases h with
  | last hs => exact hdocument hs
  | @cons _ _ _ t hs =>
    obtain ⟨b, o, u, rfl, hb, hspace, hne⟩ := hdocument hs
    exact ⟨b, o, u ++ 0x2C :: t, List.append_assoc _ _ _, hb, hspace, hne⟩

/-- The items of an array are read one after another, up to its end. -/
theorem run?_of_spellsItems {items : List RawJson} (hs : SpellsItems items s)
    (h : ∀ v ∈ items, ∀ s, Spells v s → ReadsAs v s) (before : List RawJson) :
    Reader.run? ⟨.array before :: frames, .value⟩ (s ++ [0x5D]) =
      some ⟨frames, .complete (.array (before.reverse ++ items))⟩ := by
  induction items generalizing before s with
  | nil => cases hs
  | cons v items ih =>
    obtain ⟨hv, hitems⟩ := List.forall_mem_cons.1 h
    cases hs with
    | last hs =>
      -- The last item is ended by the bracket, any other by a comma.
      obtain ⟨r, hrun, hsettled⟩ := readsAs_document hv hs (.array before :: frames)
      have hstep : r.step? 0x5D = some ⟨frames, .complete (.array (v :: before).reverse)⟩ :=
        hsettled.step?_eq (next?_of_mem (by decide))
      rw [Reader.run?_append_of_run hrun, Reader.run?_cons_of_step hstep, List.reverse_cons]
      rfl
    | cons hs ht =>
      obtain ⟨r, hrun, hsettled⟩ := readsAs_document hv hs (.array before :: frames)
      have hstep : r.step? 0x2C = some ⟨.array (v :: before) :: frames, .value⟩ :=
        hsettled.step?_eq (next?_of_mem (by decide))
      rw [List.append_assoc, Reader.run?_append_of_run hrun, List.cons_append,
        Reader.run?_cons_of_step hstep, ih ht hitems, List.reverse_cons, List.append_assoc]
      rfl

/-- **An array is read, if its items are.** The first item is awaited in a phase of its own, since
the array may be empty. -/
theorem readsAs_array {items : List RawJson} (hs : Spells (.array items) s)
    (h : ∀ v ∈ items, ∀ s, Spells v s → ReadsAs v s) : ReadsAs (.array items) s := by
  refine readsAs_of_complete fun frames ↦ ?_
  have hbegin : Reader.step? ⟨frames, .value⟩ 0x5B = some ⟨frames, .firstItem⟩ := rfl
  cases hs with
  | emptyArray hb =>
    rw [Reader.run?_cons_of_step hbegin, Reader.run?_append_of_run (takesBlanks_firstItem.run? hb)]
    rfl
  | array hs =>
    have hitems := @run?_of_spellsItems frames _ _ hs h []
    obtain ⟨b, o, t, rfl, hb, hspace, hne⟩ := hs.exists_eq
    -- Behind the blanks, the first item begins as it would after a comma.
    have hfirst : Reader.step? ⟨frames, .firstItem⟩ o =
        Reader.step? ⟨.array [] :: frames, .value⟩ o := by
      rw [Reader.step?, Reader.step?]
      simp [hspace, hne]
    rw [List.append_assoc, List.cons_append, Reader.run?_append_of_run (takesBlanks_value.run? hb),
      Reader.run?_cons] at hitems
    rw [Reader.run?_cons_of_step hbegin, List.append_assoc, List.cons_append,
      Reader.run?_append_of_run (takesBlanks_firstItem.run? hb), Reader.run?_cons, hfirst]
    exact hitems

/-- The members of an object are read one after another, up to its end. -/
theorem run?_of_spellsMembers {members : List (Octets × RawJson)} (hs : SpellsMembers members s)
    (h : ∀ m ∈ members, ∀ s, Spells m.2 s → ReadsAs m.2 s) (before : List (Octets × RawJson))
    (mayEnd : Bool) :
    Reader.run? ⟨frames, .name before mayEnd⟩ (s ++ [0x7D]) =
      some ⟨frames, .complete (.object (before.reverse ++ members))⟩ := by
  induction members generalizing before mayEnd s with
  | nil => cases hs
  | cons m members ih =>
    obtain ⟨hm, hmembers⟩ := List.forall_mem_cons.1 h
    cases hs with
    | @last k v n s hn hs =>
      obtain ⟨r, hrun, hsettled⟩ := readsAs_document hm hs (.object before k :: frames)
      have hstep : r.step? 0x7D =
          some ⟨frames, .complete (.object ((k, v) :: before).reverse)⟩ :=
        hsettled.step?_eq (next?_of_mem (by decide))
      rw [List.append_assoc, Reader.run?_append_of_run (run?_of_spellsName hn frames before mayEnd),
        Reader.run?_append_of_run hrun, Reader.run?_cons_of_step hstep, List.reverse_cons]
      rfl
    | @cons k v _ n s t hn hs ht =>
      obtain ⟨r, hrun, hsettled⟩ := readsAs_document hm hs (.object before k :: frames)
      have hstep : r.step? 0x2C = some ⟨frames, .name ((k, v) :: before) false⟩ :=
        hsettled.step?_eq (next?_of_mem (by decide))
      rw [List.append_assoc, List.append_assoc,
        Reader.run?_append_of_run (run?_of_spellsName hn frames before mayEnd),
        Reader.run?_append_of_run hrun, List.cons_append, Reader.run?_cons_of_step hstep,
        ih ht hmembers, List.reverse_cons, List.append_assoc]
      rfl

/-- **An object is read, if the values of its members are.** -/
theorem readsAs_object {members : List (Octets × RawJson)} (hs : Spells (.object members) s)
    (h : ∀ m ∈ members, ∀ s, Spells m.2 s → ReadsAs m.2 s) : ReadsAs (.object members) s := by
  refine readsAs_of_complete fun frames ↦ ?_
  have hbegin : Reader.step? ⟨frames, .value⟩ 0x7B = some ⟨frames, .name [] true⟩ := rfl
  cases hs with
  | emptyObject hb =>
    rw [Reader.run?_cons_of_step hbegin,
      Reader.run?_append_of_run ((takesBlanks_name [] true).run? hb)]
    rfl
  | object hs =>
    rw [Reader.run?_cons_of_step hbegin]
    exact run?_of_spellsMembers hs h [] true

/-! ### Whole documents -/

mutual

/-- **Whatever the grammar spells is read**, wherever it stands. -/
theorem readsAs : (v : RawJson) → ∀ s, Spells v s → ReadsAs v s
  | .null => fun s h ↦ by
    cases h
    exact readsAs_of_complete fun _ ↦ rfl
  | .bool b => fun s h ↦ by
    cases h <;> exact readsAs_of_complete fun _ ↦ rfl
  | .number l => fun s h ↦ by
    cases h with
    | number hl => exact readsAs_number hl
  | .text l => fun s h ↦ by
    cases h with
    | text hl => exact readsAs_text hl
  | .array items => fun _ h ↦ readsAs_array h (readsAs_items items)
  | .object members => fun _ h ↦ readsAs_object h (readsAs_members members)
  termination_by structural v => v

theorem readsAs_items : (items : List RawJson) → ∀ v ∈ items, ∀ s, Spells v s → ReadsAs v s
  | [] => fun _ h ↦ absurd h List.not_mem_nil
  | v :: items => List.forall_mem_cons.2 ⟨readsAs v, readsAs_items items⟩
  termination_by structural items => items

theorem readsAs_members :
    (members : List (Octets × RawJson)) → ∀ m ∈ members, ∀ s, Spells m.2 s → ReadsAs m.2 s
  | [] => fun _ h ↦ absurd h List.not_mem_nil
  | m :: members => List.forall_mem_cons.2 ⟨readsAs_member m, readsAs_members members⟩
  termination_by structural members => members

theorem readsAs_member : (m : Octets × RawJson) → ∀ s, Spells m.2 s → ReadsAs m.2 s
  | (_, v) => readsAs v
  termination_by structural m => m

end

/-- **Every document of the grammar is read as its value.** -/
theorem read?_of_document (h : Document v s) : read? s = some v := by
  obtain ⟨r, hrun, hsettled⟩ := readsAs_document (readsAs v) h []
  rw [read?, hrun, Option.bind_some, hsettled.result?]

end Concordance.Json
