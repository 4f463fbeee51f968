import Mathlib.Logic.Function.Iterate
import Concordance.Proofs.QueryFaults

/-!
# Where the cursor stands

Two loops, one inside the other, share a cursor. A `Reading` holds the variables of both loops and
the cursor, and each step of it does what the loops do next: it reads an operand, steps over a
connective, or leaves a loop. What the loops return from here on does not change with a step
(`outcome_next`), so a reading ends, and ends with what the loops return (`exists_iterate_next`).

What holds at every step is said in one place (`Reading.Keeps`). The cursor stands between the
pieces that it started with. Where an operand is about to be read, nothing was passed yet or a
connective was passed last; everywhere else an operand was passed last, and a loop that was left has
none of its connectives next. So there is a connective to name where an operand is missing, and what
remains at the end begins with an operand behind an operand.
-/

namespace Concordance

/-! ### Places -/

namespace Cursor

variable {k k' : Cursor} {c : Connective} {f : Formula}

/-- All the pieces, those that were passed and those that remain. -/
def pieces (k : Cursor) : List Piece := k.passed.reverse ++ k.rest

theorem position_le (k : Cursor) : k.position ≤ k.pieces.length := by
  simp [position, pieces]

theorem getElem?_position (k : Cursor) : k.pieces[k.position]? = k.rest.head? := by
  rw [pieces, position, List.getElem?_append_right (by simp)]
  simp [List.head?_eq_getElem?]

/-- The piece before the position is the one that was passed last. -/
theorem getElem?_position_sub_one (h : k.passed ≠ []) :
    k.pieces[k.position - 1]? = k.passed.head? := by
  obtain ⟨p, passed, hpassed⟩ := List.exists_cons_of_ne_nil h
  simp [pieces, position, hpassed]

/-- A connective was passed last. -/
def IsBehindConnective (k : Cursor) : Prop :=
  ∃ c sign, k.passed.head? = some (.connective c sign)

/-- An operand was passed last. -/
def IsBehindOperand (k : Cursor) : Prop :=
  ∃ f raw, k.passed.head? = some (.operand f raw)

/-- Reading an operand passes it, and nothing else. -/
theorem place_of_operand (h : k.operand = .ok (f, k')) :
    k'.pieces = k.pieces ∧ k'.IsBehindOperand := by
  unfold operand at h
  split at h <;> cases h
  next hrest => exact ⟨by simp [pieces, hrest], _, _, rfl⟩

theorem place_of_over? (h : k.over? c = some k') :
    k'.pieces = k.pieces ∧ k'.IsBehindConnective := by
  unfold over? at h
  split at h
  next d sign rest hrest =>
    split at h <;> cases h
    exact ⟨by simp [pieces, hrest], _, sign, rfl⟩
  next => cases h

/-- Where no connective can be stepped over, the next piece is an operand, if there is one. -/
theorem exists_operand_of_over?_eq_none (hand : k.over? .and = none) (hor : k.over? .or = none) :
    ∀ p ∈ k.rest.head?, ∃ f raw, p = .operand f raw := by
  intro p hp
  cases p with
  | operand f raw => exact ⟨f, raw, rfl⟩
  | connective c sign =>
    obtain ⟨rest, hrest⟩ := List.head?_eq_some_iff.1 hp
    cases c with
    | and => simp [over?, hrest] at hand
    | or => simp [over?, hrest] at hor

end Cursor

/-! ### A reading, step by step -/

namespace Formula

/-- A conjunction, if there is one already, with one more operand. -/
def andOperand (l : Option Formula) (f : Formula) : Formula :=
  l.elim f (.and · f)

end Formula

/-- A reading under way, with the variables of the two loops. -/
inductive Reading where
  /-- An operand is about to be read, behind this disjunction and this conjunction, if any. -/
  | operand (d l : Option Formula) (k : Cursor)
  /-- The inner loop looks for a conjunction sign. -/
  | conjuncts (d : Option Formula) (l : Formula) (k : Cursor)
  /-- The outer loop looks for a disjunction sign. -/
  | disjuncts (l : Formula) (k : Cursor)
  /-- The reading is over. -/
  | finished (result : Except QueryFault (Formula × Cursor))

namespace Reading

/-- The reading of pieces from the first on. -/
def start (ps : List Piece) : Reading := operand none none (.start ps)

/-- One step of a reading. -/
def next : Reading → Reading
  | operand d l k =>
    match k.operand with
    | .error e => finished (.error e)
    | .ok (f, k') => conjuncts d (.andOperand l f) k'
  | conjuncts d l k =>
    match k.over? .and with
    | some k' => operand d (some l) k'
    | none => disjuncts (.orGroup d l) k
  | disjuncts l k =>
    match k.over? .or with
    | some k' => operand (some l) none k'
    | none => finished (.ok (l, k))
  | finished result => finished result

/-- The cursor of a reading; one that has failed has none. -/
def cursor? : Reading → Option Cursor
  | operand _ _ k => some k
  | conjuncts _ _ k => some k
  | disjuncts _ k => some k
  | finished (.ok (_, k)) => some k
  | finished (.error _) => none

/-! ### What the loops return -/

/-- What the loops return from behind an operand on. -/
def outcomeBehind (d : Option Formula) (l : Formula) (k : Cursor) :
    Except QueryFault (Formula × Cursor) :=
  match k.conjuncts l with
  | .error e => .error e
  | .ok (right, k') => k'.disjuncts (.orGroup d right)

/-- What the loops return when they go on from here. -/
def outcome : Reading → Except QueryFault (Formula × Cursor)
  | operand d l k =>
    match k.operand with
    | .error e => .error e
    | .ok (f, k') => outcomeBehind d (.andOperand l f) k'
  | conjuncts d l k => outcomeBehind d l k
  | disjuncts l k => k.disjuncts l
  | finished result => result

theorem outcome_start (ps : List Piece) :
    (start ps).outcome = (Cursor.start ps).disjunction := by
  rw [start, outcome, Cursor.disjunction, Cursor.conjunction]
  cases (Cursor.start ps).operand with
  | error e => rfl
  | ok q => rfl

/-- **A step does not change what the loops return.** -/
theorem outcome_next (s : Reading) : s.next.outcome = s.outcome := by
  fun_cases next s with
  | case1 d l k e h => simp only [outcome, h]
  | case2 d l k f k' h => simp only [outcome, h]
  | case3 d l k k' h =>
    simp only [outcome, outcomeBehind, Cursor.conjuncts_of_some h]
    cases k'.operand with
    | error e => rfl
    | ok q => rfl
  | case4 d l k h => simp only [outcome, outcomeBehind, Cursor.conjuncts_of_none h]
  | case5 l k k' h =>
    simp only [outcome, Cursor.disjuncts_of_some h, Cursor.conjunction]
    cases k'.operand with
    | error e => rfl
    | ok q => rfl
  | case6 l k h => simp only [outcome, Cursor.disjuncts_of_none h]
  | case7 result => rfl

/-- A bound on the steps that are left. -/
def weight : Reading → Nat
  | operand _ _ k => 2 * k.rest.length + 1
  | conjuncts _ _ k => 2 * k.rest.length + 2
  | disjuncts _ k => 2 * k.rest.length + 1
  | finished _ => 0

/-- Each step weighs less than the one before, until the reading is finished. -/
theorem weight_next (s : Reading) :
    s.next.weight < s.weight ∨ ∃ result, s = finished result := by
  fun_cases next s with
  | case1 | case4 | case6 => exact .inl (by simp [weight])
  | case2 d l k f k' h =>
    have := Cursor.length_rest_of_operand h
    exact .inl (by simp only [weight]; omega)
  | case3 d l k k' h | case5 l k k' h =>
    have := Cursor.length_rest_of_over? h
    exact .inl (by simp only [weight]; omega)
  | case7 result => exact .inr ⟨result, rfl⟩

/-- **A reading ends, with what the loops return.** -/
theorem exists_iterate_next (s : Reading) : ∃ n ≤ s.weight, next^[n] s = finished s.outcome := by
  induction hweight : s.weight using Nat.strongRecOn generalizing s with
  | ind w ih =>
    rcases s.weight_next with hlt | ⟨result, rfl⟩
    · obtain ⟨n, hn, hend⟩ := ih _ (hweight ▸ hlt) s.next rfl
      refine ⟨n + 1, by omega, ?_⟩
      rw [Function.iterate_succ_apply, hend, outcome_next]
    · exact ⟨0, Nat.zero_le _, rfl⟩

/-! ### What a step keeps -/

/-- What holds of a reading of the pieces at every step. -/
def Keeps (ps : List Piece) : Reading → Prop
  | operand _ _ k => k.pieces = ps ∧ (k.passed = [] ∨ k.IsBehindConnective)
  | conjuncts _ _ k => k.pieces = ps ∧ k.IsBehindOperand
  | disjuncts _ k => k.pieces = ps ∧ k.IsBehindOperand ∧ k.over? .and = none
  | finished (.ok (_, k)) =>
    k.pieces = ps ∧ k.IsBehindOperand ∧ k.over? .and = none ∧ k.over? .or = none
  | finished (.error _) => True

theorem keeps_start (ps : List Piece) : (start ps).Keeps ps := ⟨rfl, .inl rfl⟩

/-- **Every step keeps the place.** -/
theorem Keeps.next {ps : List Piece} {s : Reading} (h : s.Keeps ps) : s.next.Keeps ps := by
  fun_cases Reading.next s with
  | case1 => trivial
  | case2 d l k f k' hoperand =>
    obtain ⟨hsame, hplace⟩ := Cursor.place_of_operand hoperand
    exact ⟨hsame.trans h.1, hplace⟩
  | case3 d l k k' hover | case5 l k k' hover =>
    obtain ⟨hsame, hplace⟩ := Cursor.place_of_over? hover
    exact ⟨hsame.trans h.1, .inr hplace⟩
  | case4 d l k hand => exact ⟨h.1, h.2, hand⟩
  | case6 l k hor => exact ⟨h.1, h.2.1, h.2.2, hor⟩
  | case7 => exact h

/-- A whole reading keeps the place. -/
theorem keeps_iterate_next (ps : List Piece) (n : Nat) : (next^[n] (start ps)).Keeps ps := by
  induction n with
  | zero => exact keeps_start ps
  | succ n ih =>
    rw [Function.iterate_succ_apply']
    exact ih.next

/-- Whatever the reading is about to do, its cursor stands between the pieces it started with. -/
theorem Keeps.pieces_eq {ps : List Piece} {s : Reading} (h : s.Keeps ps) {k : Cursor}
    (hk : s.cursor? = some k) : k.pieces = ps := by
  cases s with
  | operand d l k' | conjuncts d l k' | disjuncts l k' =>
    obtain rfl := Option.some.inj hk
    exact h.1
  | finished result =>
    cases result with
    | error e => cases hk
    | ok q =>
      obtain rfl := Option.some.inj hk
      exact h.1

end Reading

namespace Cursor

/-- Behind a connective, the piece before the position is one. -/
theorem IsBehindConnective.exists_getElem? {k : Cursor} (h : k.IsBehindConnective) :
    ∃ c sign, k.pieces[k.position - 1]? = some (.connective c sign) := by
  obtain ⟨c, sign, hhead⟩ := h
  have hpassed : k.passed ≠ [] := List.ne_nil_of_mem (List.mem_of_mem_head? hhead)
  exact ⟨c, sign, (getElem?_position_sub_one hpassed).trans hhead⟩

/-- And so it is behind an operand, so that there is a piece before the position. -/
theorem IsBehindOperand.exists_getElem? {k : Cursor} (h : k.IsBehindOperand) :
    1 ≤ k.position ∧ ∃ f raw, k.pieces[k.position - 1]? = some (.operand f raw) := by
  obtain ⟨f, raw, hhead⟩ := h
  have hpassed : k.passed ≠ [] := List.ne_nil_of_mem (List.mem_of_mem_head? hhead)
  exact ⟨List.length_pos_iff.2 hpassed, f, raw, (getElem?_position_sub_one hpassed).trans hhead⟩

/-- A fault of the loops is the fault of the query. -/
theorem ofPieces_of_disjunction {ps : List Piece} {e : QueryFault}
    (h : (Cursor.start ps).disjunction = .error e) : Formula.ofPieces ps = .error e := by
  rw [Formula.ofPieces, h]

/-- **The cursor of a reading keeps its place between the pieces**, of whatever kinds they are and
in whatever order. The reading ends after at most two steps for each piece and one more, with what
the loops return, and the cursor stands between the same pieces all the time. An operand is read
only at the start or behind a connective, so where it is missing there is a piece to name, and what
is reported as a connective is one. When a reading succeeds, an operand stands before the cursor,
and no connective stands behind it: what remains begins with an operand behind an operand. -/
theorem reading_keeps_place (ps : List Piece) (hps : ps ≠ []) :
    (∃ n ≤ 2 * ps.length + 1,
      Reading.next^[n] (.start ps) = .finished (Cursor.start ps).disjunction) ∧
    (∀ n k, (Reading.next^[n] (.start ps)).cursor? = some k →
      k.pieces = ps ∧ k.position ≤ ps.length) ∧
    (∀ n d l k, Reading.next^[n] (.start ps) = .operand d l k →
      (k.position = 0 ∨ ∃ c sign, ps[k.position - 1]? = some (.connective c sign)) ∧
      ¬ (k.passed = [] ∧ k.rest = [])) ∧
    (∀ e, (Cursor.start ps).disjunction = .error e →
      e ≠ .empty ∧
      (∀ first second, e = .consecutiveOperators first second →
        ∃ c c', [.connective c first, .connective c' second] <:+: ps) ∧
      ∀ last, e = .trailingOperator last → ∃ c, [.connective c last] <:+ ps) ∧
    (∀ f k, (Cursor.start ps).disjunction = .ok (f, k) →
      (1 ≤ k.position ∧ ∃ g raw, ps[k.position - 1]? = some (.operand g raw)) ∧
      ∀ p, ps[k.position]? = some p → ∃ g raw, p = .operand g raw) ∧
    ∀ left right, Formula.ofPieces ps = .error (.missingOperator left right) →
      ∃ f g, [.operand f left, .operand g right] <:+: ps := by
  obtain ⟨m, hm, hend⟩ := Reading.exists_iterate_next (.start ps)
  rw [Reading.outcome_start] at hend
  refine ⟨⟨m, hm, hend⟩, fun n k hk ↦ ?_, fun n d l k hk ↦ ?_, fun e he ↦ ?_, fun f k hok ↦ ?_,
    fun left right hmissing ↦ ?_⟩
  · obtain rfl := (Reading.keeps_iterate_next ps n).pieces_eq hk
    exact ⟨rfl, k.position_le⟩
  · have hkeeps := Reading.keeps_iterate_next ps n
    rw [hk] at hkeeps
    obtain ⟨rfl, hplace⟩ := hkeeps
    refine ⟨?_, fun ⟨hpassed, hrest⟩ ↦ hps (by rw [pieces, hpassed, hrest]; rfl)⟩
    exact hplace.imp (fun hnil ↦ by rw [position, hnil]; rfl) IsBehindConnective.exists_getElem?
  · have hbreaks := Formula.ofPieces_eq_error_iff.1 (ofPieces_of_disjunction he)
    refine ⟨?_, ?_, ?_⟩
    · rintro rfl
      cases hbreaks
      exact hps rfl
    · rintro first second rfl
      cases hbreaks with
      | @consecutive before _ c c' _ _ after => exact ⟨c, c', before, after, by simp⟩
    · rintro last rfl
      cases hbreaks with
      | @trailing before _ c _ => exact ⟨c, before, rfl⟩
  · have hkeeps := Reading.keeps_iterate_next ps m
    rw [hend, hok] at hkeeps
    obtain ⟨rfl, hplace, hand, hor⟩ := hkeeps
    refine ⟨hplace.exists_getElem?, fun p hp ↦ ?_⟩
    rw [getElem?_position] at hp
    exact exists_operand_of_over?_eq_none hand hor p hp
  · cases Formula.ofPieces_eq_error_iff.1 hmissing with
    | @missing before f _ _ g _ after => exact ⟨f, g, before, after, by simp⟩

/-- Operands on the two sides of a sign, and one more without a sign. -/
def strayOperand : List Piece :=
  [.operand (.term "кот") "кот", .connective .and "И", .operand (.term "пёс") "пёс",
    .operand (.term "мышь") "мышь"]

/-- A sign behind a sign. -/
def straySign : List Piece :=
  [.operand (.term "кот") "кот", .connective .and "И", .connective .or "ИЛИ",
    .operand (.term "пёс") "пёс"]

/-- A reading that ends before the last piece, and one that fails in the middle. -/
theorem reading_keeps_place_of_strayPieces :
    strayOperand ≠ [] ∧ straySign ≠ [] ∧
    (∃ k, (Cursor.start strayOperand).disjunction = .ok (.and (.term "кот") (.term "пёс"), k) ∧
      (1 ≤ k.position ∧ ∃ g raw, strayOperand[k.position - 1]? = some (.operand g raw)) ∧
      ∀ p, strayOperand[k.position]? = some p → ∃ g raw, p = .operand g raw) ∧
    (Formula.ofPieces strayOperand = .error (.missingOperator "пёс" "мышь") ∧
      ∃ f g, [.operand f "пёс", .operand g "мышь"] <:+: strayOperand) ∧
    (∃ k, Reading.next^[2] (.start straySign) = .operand none (some (.term "кот")) k ∧
      (k.pieces = straySign ∧ k.position ≤ straySign.length) ∧
      (k.position = 0 ∨ ∃ c sign, straySign[k.position - 1]? = some (.connective c sign))) ∧
    (Cursor.start straySign).disjunction = .error (.consecutiveOperators "И" "ИЛИ") ∧
      ∃ c c', [.connective c "И", .connective c' "ИЛИ"] <:+: straySign := by
  have hoperand : strayOperand ≠ [] := by decide
  have hsign : straySign ≠ [] := by decide
  obtain ⟨-, -, -, -, hok, hmissing⟩ := reading_keeps_place strayOperand hoperand
  obtain ⟨-, hposition, hentry, herror, -⟩ := reading_keeps_place straySign hsign
  have hread : (Cursor.start strayOperand).disjunction =
      .ok (.and (.term "кот") (.term "пёс"), ⟨strayOperand.reverse.tail, strayOperand.drop 3⟩) := by
    decide +kernel
  have hfault : Formula.ofPieces strayOperand = .error (.missingOperator "пёс" "мышь") := by
    decide +kernel
  have hstep : Reading.next^[2] (.start straySign) =
      .operand none (some (.term "кот")) ⟨(straySign.take 2).reverse, straySign.drop 2⟩ := rfl
  have hfailed : (Cursor.start straySign).disjunction =
      .error (.consecutiveOperators "И" "ИЛИ") := by
    decide +kernel
  exact ⟨hoperand, hsign, ⟨_, hread, hok _ _ hread⟩, ⟨hfault, hmissing _ _ hfault⟩,
    ⟨_, hstep, hposition 2 _ (by rw [hstep]; rfl), (hentry _ _ _ _ hstep).1⟩, hfailed,
    (herror _ hfailed).2.1 _ _ rfl⟩

end Cursor

end Concordance
