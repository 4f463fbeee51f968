import Mathlib.Data.List.Forall2
import Concordance.Query.Reading

/-!
# The grammar of queries

A query is accepted if each of its pieces is a connective or an operand (`Lexes`), and the pieces
begin and end with an operand and alternate (`Alternates`). Its formula is found by cutting the
pieces at the disjunction signs: the operands of each group are joined by conjunction, and the
groups by disjunction, both from the left (`formulaOf?`).

The cursor reads a query with one loop inside another. Both take turns with a single state, which
stands behind an operand and keeps the disjunction before the current group, if there is one, and
the conjunction so far. `resume` is the rest of the reading from such a state; it follows the pieces
one operand at a time (`resume_and`, `resume_or`), and every other shape of what remains ends it. So
the two loops are one recursion over the pieces, `fromOperand`, which also tells every fault.
-/

namespace Concordance

/-! ### The grammar -/

namespace Piece

/-- Is the piece a disjunction sign? -/
def isOr : Piece → Bool
  | connective .or _ => true
  | _ => false

/-- The formula of an operand. -/
def formula? : Piece → Option Formula
  | operand f _ => some f
  | connective _ _ => none

end Piece

/-- The pieces begin and end with an operand, and operands and connectives alternate. -/
inductive Alternates : List Piece → Prop where
  /-- One operand. -/
  | single (f : Formula) (raw : String) : Alternates [.operand f raw]
  /-- An operand and a connective before such pieces. -/
  | cons (f : Formula) (raw : String) (c : Connective) (sign : String) {ps : List Piece} :
      Alternates ps → Alternates (.operand f raw :: .connective c sign :: ps)

/-- Pieces that alternate begin with an operand. -/
theorem Alternates.exists_eq {ps : List Piece} (h : Alternates ps) :
    ∃ f raw rest, ps = .operand f raw :: rest := by
  cases h with
  | single f raw => exact ⟨f, raw, [], rfl⟩
  | cons f raw c sign h => exact ⟨f, raw, _, rfl⟩

namespace Formula

/-- Formulas joined from the left, if there are any. -/
def joined? (op : Formula → Formula → Formula) : List Formula → Option Formula
  | [] => none
  | f :: fs => some (fs.foldl op f)

/-- The conjunction of the operands of a group. -/
def conjunctionOf? (group : List Piece) : Option Formula :=
  joined? .and (group.filterMap Piece.formula?)

/-- The disjunction of the groups between disjunction signs. -/
def formulaOf? (ps : List Piece) : Option Formula :=
  ((cut Piece.isOr ps).mapM conjunctionOf?).bind (joined? .or)

end Formula

/-- A piece of a query, by its text, is this connective or this operand. -/
inductive Lexes (r : QueryReader) : String → Piece → Prop where
  /-- The conjunction sign. -/
  | and : Lexes r r.spelling.and (.connective .and r.spelling.and)
  /-- The disjunction sign, unless it is spelled like the other. -/
  | or (h : r.spelling.or ≠ r.spelling.and) :
      Lexes r r.spelling.or (.connective .or r.spelling.or)
  /-- A word with at least one term. -/
  | word {raw t : String} {ts : List String} (hand : raw ≠ r.spelling.and)
      (hor : raw ≠ r.spelling.or) (hnot : raw.toList.head? ≠ some r.spelling.not)
      (hterms : r.alphabet.terms raw = t :: ts) :
      Lexes r raw (.operand ((ts.map Formula.term).foldl .and (.term t)) raw)
  /-- A word with at least one term, behind one negation character. -/
  | negation {raw : String} {w : List Char} {t : String} {ts : List String}
      (hand : raw ≠ r.spelling.and) (hor : raw ≠ r.spelling.or)
      (hraw : raw.toList = r.spelling.not :: w) (hnot : w.head? ≠ some r.spelling.not)
      (hterms : r.alphabet.terms (String.ofList w) = t :: ts) :
      Lexes r raw (.operand (.not ((ts.map Formula.term).foldl .and (.term t))) raw)

/-! ### Reading pieces -/

namespace QueryReader

variable {r : QueryReader}

/-- A word is read as the conjunction of its terms, from the left, and refused if it has none. -/
theorem word_eq_ok_iff {w : String} {f : Formula} :
    r.word w = .ok f ↔ ∃ t ts, r.alphabet.terms w = t :: ts ∧
      f = (ts.map Formula.term).foldl .and (.term t) := by
  rw [word]
  cases r.alphabet.terms w with
  | nil => simp
  | cons t ts =>
    constructor
    · intro h
      obtain rfl := Except.ok.inj h
      exact ⟨t, ts, rfl, rfl⟩
    · rintro ⟨t', ts', hterms, rfl⟩
      obtain ⟨rfl, rfl⟩ := List.cons.inj hterms
      rfl

theorem terms_empty (a : Alphabet) : a.terms "" = [] := by
  cases a <;> rfl

/-- **An operand is a word or a negated word.** A second sign of negation is refused. -/
theorem operand_eq_ok_iff {raw : String} {f : Formula} :
    r.operand raw = .ok f ↔
      (raw.toList.head? ≠ some r.spelling.not ∧ r.word raw = .ok f) ∨
        ∃ w g, raw.toList = r.spelling.not :: w ∧ w.head? ≠ some r.spelling.not ∧
          r.word (String.ofList w) = .ok g ∧ f = .not g := by
  rw [operand]
  cases hraw : raw.toList with
  | nil => simp
  | cons c rest =>
    by_cases hc : c = r.spelling.not
    · subst hc
      cases rest with
      | nil =>
        -- A negation without a word has no terms either.
        simp [word, terms_empty]
      | cons d rest =>
        by_cases hd : d = r.spelling.not
        · simp [hd]
        · have hmap : (r.word (String.ofList (d :: rest))).map .not = .ok f ↔
              ∃ g, r.word (String.ofList (d :: rest)) = .ok g ∧ f = .not g := by
            cases r.word (String.ofList (d :: rest)) with
            | error e => simp [Except.map]
            | ok g => simp [Except.map, eq_comm]
          simp only [reduceIte, if_neg hd]
          constructor
          · intro h
            obtain ⟨g, hg, rfl⟩ := hmap.1 h
            exact .inr ⟨d :: rest, g, rfl, by simpa using hd, hg, rfl⟩
          · rintro (⟨hne, -⟩ | ⟨w, g, hw, -, hg, rfl⟩)
            · exact absurd rfl hne
            · cases hw
              exact hmap.2 ⟨g, hg, rfl⟩
    · simp [hc]

/-- **A piece is read as what it is in the grammar.** -/
theorem piece_eq_ok_iff {raw : String} {p : Piece} : r.piece raw = .ok p ↔ Lexes r raw p := by
  constructor
  · intro h
    rw [piece] at h
    split at h
    · next hand =>
      subst hand
      obtain rfl := Except.ok.inj h
      exact .and
    · next hand =>
      split at h
      · next hor =>
        subst hor
        obtain rfl := Except.ok.inj h
        exact .or hand
      · next hor =>
        cases hf : r.operand raw with
        | error e => rw [hf] at h; cases h
        | ok f =>
          rw [hf] at h
          obtain rfl := Except.ok.inj h
          rcases operand_eq_ok_iff.1 hf with ⟨hnot, hword⟩ | ⟨w, g, hraw, hnot, hword, rfl⟩
          · obtain ⟨t, ts, hterms, rfl⟩ := word_eq_ok_iff.1 hword
            exact .word hand hor hnot hterms
          · obtain ⟨t, ts, hterms, rfl⟩ := word_eq_ok_iff.1 hword
            exact .negation hand hor hraw hnot hterms
  · intro h
    cases h with
    | and => simp [piece]
    | or h => simp [piece, h]
    | word hand hor hnot hterms =>
      have hf := operand_eq_ok_iff.2 (.inl ⟨hnot, word_eq_ok_iff.2 ⟨_, _, hterms, rfl⟩⟩)
      rw [piece, if_neg hand, if_neg hor, hf]
      rfl
    | negation hand hor hraw hnot hterms =>
      have hf := operand_eq_ok_iff.2
        (.inr ⟨_, _, hraw, hnot, word_eq_ok_iff.2 ⟨_, _, hterms, rfl⟩, rfl⟩)
      rw [piece, if_neg hand, if_neg hor, hf]
      rfl

/-- Pieces are read one by one, each on its own. -/
private theorem mapM_eq_ok_iff {raws : List (List Char)} {ps : List Piece} :
    (raws.mapM fun raw ↦ r.piece (String.ofList raw)) = .ok ps ↔
      List.Forall₂ (Lexes r) (raws.map String.ofList) ps := by
  induction raws generalizing ps with
  | nil =>
    rw [List.mapM_nil, List.map_nil, List.forall₂_nil_left_iff]
    exact ⟨fun h ↦ by cases h; rfl, fun h ↦ by rw [h]; rfl⟩
  | cons raw raws ih =>
    rw [List.mapM_cons, List.map_cons, List.forall₂_cons_left_iff]
    cases hp : r.piece (String.ofList raw) with
    | error e =>
      constructor
      · intro h
        cases h
      · rintro ⟨p, -, hlex, -, -⟩
        rw [piece_eq_ok_iff.2 hlex] at hp
        exact absurd hp (by simp)
    | ok p =>
      cases hps : raws.mapM fun raw ↦ r.piece (String.ofList raw) with
      | error e =>
        constructor
        · intro h
          cases h
        · rintro ⟨p', ps', -, hall, -⟩
          rw [ih.2 hall] at hps
          exact absurd hps (by simp)
      | ok ps' =>
        constructor
        · intro h
          obtain rfl := Except.ok.inj h
          exact ⟨p, ps', piece_eq_ok_iff.1 hp, ih.1 hps, rfl⟩
        · rintro ⟨q, qs, hlex, hall, rfl⟩
          rw [piece_eq_ok_iff.2 hlex] at hp
          rw [ih.2 hall] at hps
          obtain rfl := Except.ok.inj hp
          obtain rfl := Except.ok.inj hps
          rfl

/-- The pieces of a query are those of the grammar. -/
theorem pieces_eq_ok_iff {query : String} {ps : List Piece} :
    r.pieces query = .ok ps ↔
      List.Forall₂ (Lexes r) ((blankFreePieces query.toList).map String.ofList) ps :=
  mapM_eq_ok_iff

end QueryReader

/-! ### One recursion for two loops -/

namespace Formula

/-- A disjunction, if there is one already, with one more group. -/
def orGroup (d : Option Formula) (l : Formula) : Formula :=
  d.elim l (.or · l)

/-- The formula of a reading, if no piece remains. -/
def ofReading : Except QueryFault (Formula × Cursor) → Except QueryFault Formula
  | .error e => .error e
  | .ok (f, ⟨_, []⟩) => .ok f
  | .ok (_, ⟨passed, next :: _⟩) =>
    .error (.missingOperator (passed.head?.elim "" Piece.raw) next.raw)

/-- The formula of the pieces behind an operand, given the disjunction before its group, the
conjunction up to it, and its text. -/
def fromOperand (d : Option Formula) (l : Formula) (last : String) :
    List Piece → Except QueryFault Formula
  | [] => .ok (orGroup d l)
  | .operand _ raw :: _ => .error (.missingOperator last raw)
  | [.connective _ sign] => .error (.trailingOperator sign)
  | .connective _ sign :: .connective _ sign' :: _ => .error (.consecutiveOperators sign sign')
  | .connective .and _ :: .operand f raw :: rest => fromOperand d (.and l f) raw rest
  | .connective .or _ :: .operand f raw :: rest => fromOperand (some (orGroup d l)) f raw rest

end Formula

namespace Cursor

variable {d : Option Formula} {l f : Formula} {k k' : Cursor} {passed rest : List Piece}

/-- What is read from behind an operand on. -/
def resume (d : Option Formula) (l : Formula) (k : Cursor) : Except QueryFault Formula :=
  match k.conjuncts l with
  | .error e => .error e
  | .ok (right, k') => Formula.ofReading (k'.disjuncts (.orGroup d right))

theorem conjuncts_of_none (h : k.over? .and = none) (l : Formula) :
    k.conjuncts l = .ok (l, k) := by
  rw [conjuncts]
  split
  · rfl
  · next k₁ h₁ =>
    rw [h] at h₁
    exact absurd h₁ (by simp)

theorem conjuncts_of_some (h : k.over? .and = some k') (l : Formula) :
    k.conjuncts l =
      match k'.operand with
      | .error e => .error e
      | .ok (right, k₂) => k₂.conjuncts (.and l right) := by
  rw [conjuncts]
  split
  · next h₁ =>
    rw [h] at h₁
    exact absurd h₁ (by simp)
  · next k₁ h₁ =>
    rw [h] at h₁
    obtain rfl := Option.some.inj h₁
    split <;> simp_all

theorem disjuncts_of_none (h : k.over? .or = none) (l : Formula) :
    k.disjuncts l = .ok (l, k) := by
  rw [disjuncts]
  split
  · rfl
  · next k₁ h₁ =>
    rw [h] at h₁
    exact absurd h₁ (by simp)

theorem disjuncts_of_some (h : k.over? .or = some k') (l : Formula) :
    k.disjuncts l =
      match k'.conjunction with
      | .error e => .error e
      | .ok (right, k₂) => k₂.disjuncts (.or l right) := by
  rw [disjuncts]
  split
  · next h₁ =>
    rw [h] at h₁
    exact absurd h₁ (by simp)
  · next k₁ h₁ =>
    rw [h] at h₁
    obtain rfl := Option.some.inj h₁
    split <;> simp_all

/-- Behind a last operand nothing more is read. -/
theorem resume_of_none (hand : k.over? .and = none) (hor : k.over? .or = none) :
    k.resume d l = Formula.ofReading (.ok (.orGroup d l, k)) := by
  rw [resume, conjuncts_of_none hand]
  exact congrArg Formula.ofReading (disjuncts_of_none hor _)

/-- A conjunction sign continues the group. -/
theorem resume_and (h : k.over? .and = some k') :
    k.resume d l =
      match k'.operand with
      | .error e => .error e
      | .ok (f, k₂) => k₂.resume d (.and l f) := by
  rw [resume, conjuncts_of_some h]
  cases k'.operand with
  | error e => rfl
  | ok p => rfl

/-- A disjunction sign ends the group and begins another. -/
theorem resume_or (hand : k.over? .and = none) (hor : k.over? .or = some k') :
    k.resume d l =
      match k'.operand with
      | .error e => .error e
      | .ok (f, k₂) => k₂.resume (some (.orGroup d l)) f := by
  rw [resume, conjuncts_of_none hand]
  simp only [disjuncts_of_some hor, conjunction]
  -- The inner loop that starts here is the one that `resume` begins with.
  cases k'.operand with
  | error e => rfl
  | ok p =>
    simp only [resume]
    cases p.2.conjuncts p.1 with
    | error e => rfl
    | ok q => rfl

/-- **The two loops are one recursion over the pieces behind an operand.** -/
theorem resume_eq (d : Option Formula) (l : Formula) (last : String) (rest passed : List Piece)
    (h : passed.head?.elim "" Piece.raw = last) :
    resume d l ⟨passed, rest⟩ = Formula.fromOperand d l last rest := by
  -- The cases of the recursion are the shapes of what remains; the state only changes with them.
  fun_induction Formula.fromOperand d l last rest generalizing passed with
  | case1 d l last =>
    rw [resume_of_none rfl rfl]
    rfl
  | case2 d l last f raw rest =>
    rw [resume_of_none rfl rfl, ← h]
    rfl
  | case3 d l last c sign =>
    cases c with
    | and => rw [resume_and rfl]; rfl
    | or => rw [resume_or rfl rfl]; rfl
  | case4 d l last c sign c' sign' rest =>
    cases c with
    | and => rw [resume_and rfl]; rfl
    | or => rw [resume_or rfl rfl]; rfl
  | case5 d l last sign f raw rest ih =>
    rw [resume_and rfl]
    exact ih _ rfl
  | case6 d l last sign f raw rest ih =>
    rw [resume_or rfl rfl]
    exact ih _ rfl

end Cursor

namespace Formula

/-- **The formula of a list of pieces**, or why there is none. -/
theorem ofPieces_eq (ps : List Piece) :
    ofPieces ps =
      match ps with
      | [] => .error .empty
      | .connective _ sign :: _ => .error (.leadingOperator sign)
      | .operand f raw :: rest => fromOperand none f raw rest := by
  rw [ofPieces, Cursor.disjunction, Cursor.conjunction]
  match ps with
  | [] => rfl
  | .connective _ sign :: _ => rfl
  | .operand f raw :: rest =>
    show _ = fromOperand none f raw rest
    rw [← Cursor.resume_eq none f raw rest [.operand f raw] rfl]
    simp only [Cursor.start, Cursor.operand, Cursor.resume]
    cases Cursor.conjuncts f ⟨[.operand f raw], rest⟩ with
    | error e => rfl
    | ok q =>
      simp only [orGroup, Option.elim]
      cases q.2.disjuncts q.1 with
      | error e => rfl
      | ok q' =>
        obtain ⟨g, passed, rest'⟩ := q'
        cases rest' <;> rfl

/-! ### Accepted queries -/

theorem exists_cut_eq (ps : List Piece) : ∃ g gs, cut Piece.isOr ps = g :: gs :=
  List.exists_cons_of_ne_nil (cut_ne_nil Piece.isOr ps)

/-- The formula that the grammar gives to the pieces behind an operand: what remains of its group
continues the conjunction, and the other groups continue the disjunction. -/
def behind? (d : Option Formula) (l : Formula) (rest : List Piece) : Option Formula :=
  ((cut Piece.isOr rest).tail.mapM conjunctionOf?).map fun gs ↦
    gs.foldl .or
      (orGroup d ((((cut Piece.isOr rest).headD []).filterMap Piece.formula?).foldl .and l))

theorem behind?_nil (d : Option Formula) (l : Formula) : behind? d l [] = some (orGroup d l) := rfl

/-- A conjunction sign goes on with the group. -/
theorem behind?_and (d : Option Formula) (l f : Formula) (sign raw : String) (rest : List Piece) :
    behind? d l (.connective .and sign :: .operand f raw :: rest) = behind? d (.and l f) rest := by
  obtain ⟨g, gs, hcut⟩ := exists_cut_eq rest
  unfold behind?
  rw [cut_cons_of_not_sep rfl, cut_cons_of_not_sep rfl, hcut]
  rfl

/-- A disjunction sign ends the group and begins another one. -/
theorem behind?_or (d : Option Formula) (l f : Formula) (sign raw : String) (rest : List Piece) :
    behind? d l (.connective .or sign :: .operand f raw :: rest) =
      behind? (some (orGroup d l)) f rest := by
  obtain ⟨g, gs, hcut⟩ := exists_cut_eq rest
  unfold behind?
  rw [cut_cons_of_sep rfl, cut_cons_of_not_sep rfl, hcut]
  simp only [List.tail_cons, List.modifyHead_cons, List.mapM_cons, List.headD_cons]
  cases gs.mapM conjunctionOf? with
  | none => rfl
  | some fs => rfl

theorem formulaOf?_operand (f : Formula) (raw : String) (rest : List Piece) :
    formulaOf? (.operand f raw :: rest) = behind? none f rest := by
  obtain ⟨g, gs, hcut⟩ := exists_cut_eq rest
  rw [formulaOf?, behind?]
  rw [cut_cons_of_not_sep rfl, hcut]
  simp only [List.tail_cons, List.modifyHead_cons, List.mapM_cons, List.headD_cons]
  cases gs.mapM conjunctionOf? with
  | none => rfl
  | some fs => rfl

/-- What is read behind an operand is what the grammar gives, and only alternating pieces are
read. The formula of the operand itself does not matter for that. -/
theorem fromOperand_eq_ok_iff {d : Option Formula} {l g f : Formula} {last raw : String}
    {rest : List Piece} :
    fromOperand d l last rest = .ok f ↔
      Alternates (.operand g raw :: rest) ∧ behind? d l rest = some f := by
  -- Only the first case and the last two are not faults, and they continue the alternation.
  fun_induction fromOperand d l last rest generalizing g raw with
  | case1 d l last =>
    rw [behind?_nil, Except.ok.injEq, Option.some.injEq]
    exact ⟨fun h ↦ ⟨.single g raw, h⟩, fun h ↦ h.2⟩
  | case2 =>
    constructor
    · intro h
      exact absurd h (by simp)
    · rintro ⟨h, -⟩
      cases h
  | case3 | case4 =>
    constructor
    · intro h
      exact absurd h (by simp)
    · rintro ⟨h, -⟩
      cases h with
      | cons _ _ _ _ h => cases h
  | case5 d l last sign f' raw' rest ih =>
    rw [@ih f' raw', behind?_and]
    refine ⟨fun ⟨h, hf⟩ ↦ ⟨.cons g raw .and sign h, hf⟩, fun ⟨h, hf⟩ ↦ ⟨?_, hf⟩⟩
    cases h with
    | cons _ _ _ _ h => exact h
  | case6 d l last sign f' raw' rest ih =>
    rw [@ih f' raw', behind?_or]
    refine ⟨fun ⟨h, hf⟩ ↦ ⟨.cons g raw .or sign h, hf⟩, fun ⟨h, hf⟩ ↦ ⟨?_, hf⟩⟩
    cases h with
    | cons _ _ _ _ h => exact h

/-- Where pieces alternate, every group has operands to join. -/
theorem exists_behind?_eq {g : Formula} {raw : String} {rest : List Piece}
    (h : Alternates (.operand g raw :: rest)) (d : Option Formula) (l : Formula) :
    ∃ f, behind? d l rest = some f := by
  generalize hps : Piece.operand g raw :: rest = ps at h
  induction h generalizing d g l raw rest with
  | single f raw' =>
    cases hps
    exact ⟨orGroup d l, rfl⟩
  | cons f raw' c sign h ih =>
    cases hps
    obtain ⟨f', raw'', rest', rfl⟩ := h.exists_eq
    cases c with
    | and =>
      rw [behind?_and]
      exact ih d (.and l f') rfl
    | or =>
      rw [behind?_or]
      exact ih (some (orGroup d l)) f' rfl

/-- The grammar gives a formula to alternating pieces. -/
theorem exists_formulaOf?_eq {ps : List Piece} (h : Alternates ps) :
    ∃ f, formulaOf? ps = some f := by
  obtain ⟨f, raw, rest, rfl⟩ := h.exists_eq
  rw [formulaOf?_operand]
  exact exists_behind?_eq h none f

/-- **Pieces have a formula exactly if they alternate, and it is the one of the grammar.** -/
theorem ofPieces_eq_ok_iff {ps : List Piece} {f : Formula} :
    ofPieces ps = .ok f ↔ Alternates ps ∧ formulaOf? ps = some f := by
  rw [ofPieces_eq]
  match ps with
  | [] =>
    constructor
    · intro h
      exact absurd h (by simp)
    · rintro ⟨h, -⟩
      cases h
  | .connective c sign :: rest =>
    constructor
    · intro h
      exact absurd h (by simp)
    · rintro ⟨h, -⟩
      cases h
  | .operand g raw :: rest =>
    rw [formulaOf?_operand]
    exact fromOperand_eq_ok_iff

end Formula

namespace QueryReader

/-- **The queries that are accepted are those of the grammar, and each is read as its formula.** -/
theorem read_accepts_grammar (r : QueryReader) (query : String) :
    ((∃ f, r.read query = .ok f) ↔
      ∃ ps, List.Forall₂ (Lexes r) ((blankFreePieces query.toList).map String.ofList) ps ∧
        Alternates ps) ∧
      ∀ ps, List.Forall₂ (Lexes r) ((blankFreePieces query.toList).map String.ofList) ps →
        Alternates ps → ∃ f, Formula.formulaOf? ps = some f ∧ r.read query = .ok f := by
  have hread {ps : List Piece} (hps : r.pieces query = .ok ps) :
      r.read query = Formula.ofPieces ps := by
    rw [read, hps]
  constructor
  · constructor
    · rintro ⟨f, hf⟩
      cases hps : r.pieces query with
      | error e =>
        rw [read, hps] at hf
        exact absurd hf (by simp)
      | ok ps =>
        rw [hread hps] at hf
        exact ⟨ps, pieces_eq_ok_iff.1 hps, (Formula.ofPieces_eq_ok_iff.1 hf).1⟩
    · rintro ⟨ps, hlex, halternates⟩
      obtain ⟨f, hf⟩ := Formula.exists_formulaOf?_eq halternates
      rw [hread (pieces_eq_ok_iff.2 hlex)]
      exact ⟨f, Formula.ofPieces_eq_ok_iff.2 ⟨halternates, hf⟩⟩
  · intro ps hlex halternates
    obtain ⟨f, hf⟩ := Formula.exists_formulaOf?_eq halternates
    rw [hread (pieces_eq_ok_iff.2 hlex)]
    exact ⟨f, hf, Formula.ofPieces_eq_ok_iff.2 ⟨halternates, hf⟩⟩

end QueryReader

end Concordance
