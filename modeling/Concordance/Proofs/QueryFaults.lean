import Concordance.Proofs.QueryGrammar

/-!
# Why a query is rejected

A rejected query has one fault, and the grammar says which. The pieces are read before their order
is looked at, so the first piece that is neither a connective nor an operand decides, whatever
stands before it (`Spoils`). If there is none, the pieces fail to alternate somewhere, and the
leftmost place where they do decides (`Breaks`): the pieces before that place begin with an operand
and alternate, so it is found by what stands at the place alone.

That the cursor reports this place is read off the single recursion behind its two loops. It passes
over alternating pieces without looking back further than the last operand
(`exists_fromOperand_append`), and every other shape of what remains is a break.
-/

namespace Concordance

/-! ### Faults of pieces and of their order -/

/-- A piece, by its text, is neither a connective nor an operand, and this is its fault. -/
inductive Spoils (r : QueryReader) : String → QueryFault → Prop where
  /-- A negation character stands alone. -/
  | emptyNegation {raw : String} (hand : raw ≠ r.spelling.and) (hor : raw ≠ r.spelling.or)
      (hraw : raw.toList = [r.spelling.not]) : Spoils r raw (.emptyNegation raw)
  /-- A negation character follows another. -/
  | doubleNegation {raw : String} {w : List Char} (hand : raw ≠ r.spelling.and)
      (hor : raw ≠ r.spelling.or) (hraw : raw.toList = r.spelling.not :: r.spelling.not :: w) :
      Spoils r raw (.doubleNegation raw)
  /-- A word has no terms. -/
  | word {raw : String} (hand : raw ≠ r.spelling.and) (hor : raw ≠ r.spelling.or)
      (hnot : raw.toList.head? ≠ some r.spelling.not) (hterms : r.alphabet.terms raw = []) :
      Spoils r raw (.noIndexableText raw)
  /-- A word behind one negation character has no terms. -/
  | negation {raw w : String} (hand : raw ≠ r.spelling.and) (hor : raw ≠ r.spelling.or)
      (hraw : raw.toList = r.spelling.not :: w.toList) (hne : w ≠ "")
      (hnot : w.toList.head? ≠ some r.spelling.not) (hterms : r.alphabet.terms w = []) :
      Spoils r raw (.noIndexableText w)

/-- The leftmost place where operands and connectives fail to alternate, by the fault that it is.
The pieces before the place alternate. -/
inductive Breaks : List Piece → QueryFault → Prop where
  /-- There are no pieces. -/
  | empty : Breaks [] .empty
  /-- A connective stands first. -/
  | leading (c : Connective) (sign : String) (rest : List Piece) :
      Breaks (.connective c sign :: rest) (.leadingOperator sign)
  /-- A connective follows a connective. -/
  | consecutive {ps : List Piece} (h : Alternates ps) (c c' : Connective) (sign sign' : String)
      (rest : List Piece) :
      Breaks (ps ++ .connective c sign :: .connective c' sign' :: rest)
        (.consecutiveOperators sign sign')
  /-- An operand follows an operand. -/
  | missing {ps : List Piece} {f : Formula} {raw : String}
      (h : Alternates (ps ++ [.operand f raw])) (g : Formula) (raw' : String) (rest : List Piece) :
      Breaks (ps ++ .operand f raw :: .operand g raw' :: rest) (.missingOperator raw raw')
  /-- A connective stands last. -/
  | trailing {ps : List Piece} (h : Alternates ps) (c : Connective) (sign : String) :
      Breaks (ps ++ [.connective c sign]) (.trailingOperator sign)

/-- How the pieces of a query, by their texts, decide its fault. -/
inductive Rejects (r : QueryReader) (raws : List String) : QueryFault → Prop where
  /-- The first piece that is neither a connective nor an operand decides. -/
  | piece {before after : List String} {raw : String} {e : QueryFault}
      (hraws : raws = before ++ raw :: after) (hbefore : ∀ b ∈ before, ∃ p, Lexes r b p)
      (h : Spoils r raw e) : Rejects r raws e
  /-- If every piece is one of these, their order decides. -/
  | order {ps : List Piece} {e : QueryFault} (hps : List.Forall₂ (Lexes r) raws ps)
      (h : Breaks ps e) : Rejects r raws e

namespace QueryReader

variable {r : QueryReader}

/-! ### Faults of pieces -/

/-- A word has one fault only, which is that it has no terms. -/
theorem word_eq_error_iff {w : String} {e : QueryFault} :
    r.word w = .error e ↔ r.alphabet.terms w = [] ∧ e = .noIndexableText w := by
  rw [word]
  cases r.alphabet.terms w with
  | nil => simp [eq_comm]
  | cons t ts => simp

theorem map_eq_error_iff {α β : Type} {f : α → β} {x : Except QueryFault α} {e : QueryFault} :
    x.map f = .error e ↔ x = .error e := by
  cases x <;> simp [Except.map]

/-- A piece that is no connective is read as an operand. -/
theorem piece_eq_error_iff_operand {raw : String} {e : QueryFault} :
    r.piece raw = .error e ↔
      raw ≠ r.spelling.and ∧ raw ≠ r.spelling.or ∧ r.operand raw = .error e := by
  rw [piece]
  by_cases hand : raw = r.spelling.and
  · simp [hand]
  · by_cases hor : raw = r.spelling.or
    · rw [if_neg hand, if_pos hor]
      simp [hor]
    · simp [hand, hor, map_eq_error_iff]

/-- **A piece has the fault that it has in the grammar.** -/
theorem piece_eq_error_iff {raw : String} {e : QueryFault} :
    r.piece raw = .error e ↔ Spoils r raw e := by
  rw [piece_eq_error_iff_operand]
  constructor
  · rintro ⟨hand, hor, h⟩
    rw [operand] at h
    split at h
    · next hraw =>
      obtain ⟨hterms, rfl⟩ := word_eq_error_iff.1 h
      exact .word hand hor (by simp [hraw]) hterms
    · next c rest hraw =>
      split at h
      · next hc =>
        subst hc
        split at h
        · obtain rfl := Except.error.inj h
          exact .emptyNegation hand hor hraw
        · next d rest =>
          split at h
          · next hd =>
            subst hd
            obtain rfl := Except.error.inj h
            exact .doubleNegation hand hor hraw
          · next hd =>
            obtain ⟨hterms, rfl⟩ := word_eq_error_iff.1 (map_eq_error_iff.1 h)
            refine .negation hand hor ?_ ?_ ?_ hterms
            · rw [String.toList_ofList, hraw]
            · simp
            · simpa using hd
      · next hc =>
        obtain ⟨hterms, rfl⟩ := word_eq_error_iff.1 h
        exact .word hand hor (by simpa [hraw] using hc) hterms
  · intro h
    cases h with
    | emptyNegation hand hor hraw => exact ⟨hand, hor, by simp [operand, hraw]⟩
    | doubleNegation hand hor hraw => exact ⟨hand, hor, by simp [operand, hraw]⟩
    | word hand hor hnot hterms =>
      refine ⟨hand, hor, ?_⟩
      have hword := word_eq_error_iff.2 ⟨hterms, rfl⟩
      rw [operand]
      split
      · exact hword
      · next c rest hraw =>
        rw [if_neg (by simpa [hraw] using hnot)]
        exact hword
    | @negation w hand hor hraw hne hnot hterms =>
      refine ⟨hand, hor, ?_⟩
      have hword := word_eq_error_iff.2 ⟨hterms, rfl⟩
      obtain ⟨d, rest, hw⟩ : ∃ d rest, w.toList = d :: rest :=
        List.exists_cons_of_ne_nil (by simpa using hne)
      have hd : d ≠ r.spelling.not := by simpa [hw] using hnot
      have hofList : String.ofList (d :: rest) = w := by rw [← hw, String.ofList_toList]
      simp only [operand, hraw, hw, reduceIte, if_neg hd, hofList]
      exact map_eq_error_iff.2 hword

/-- Pieces are read from the left, so that the first fault is reported. -/
private theorem mapM_eq_error_iff {raws : List (List Char)} {e : QueryFault} :
    (raws.mapM fun raw ↦ r.piece (String.ofList raw)) = .error e ↔
      ∃ before raw after, raws.map String.ofList = before ++ raw :: after ∧
        (∀ b ∈ before, ∃ p, Lexes r b p) ∧ Spoils r raw e := by
  induction raws with
  | nil =>
    rw [List.mapM_nil, List.map_nil]
    constructor
    · intro h
      cases h
    · rintro ⟨before, raw, after, h, -⟩
      exact absurd h (by simp)
  | cons raw raws ih =>
    rw [List.mapM_cons, List.map_cons]
    cases hp : r.piece (String.ofList raw) with
    | error e' =>
      constructor
      · intro h
        obtain rfl := Except.error.inj h
        exact ⟨[], _, _, rfl, by simp, piece_eq_error_iff.1 hp⟩
      · rintro ⟨before, raw', after, hraws, hbefore, hspoils⟩
        -- The first piece is faulty, so nothing stands before the one that decides.
        cases before with
        | nil =>
          obtain ⟨rfl, rfl⟩ := List.cons.inj hraws
          rw [piece_eq_error_iff.2 hspoils] at hp
          obtain rfl := Except.error.inj hp
          rfl
        | cons b before =>
          obtain ⟨rfl, -⟩ := List.cons.inj hraws
          obtain ⟨p, hlex⟩ := hbefore _ List.mem_cons_self
          rw [piece_eq_ok_iff.2 hlex] at hp
          exact absurd hp (by simp)
    | ok p =>
      have hrest : (do
          let p ← Except.ok p
          let ps ← raws.mapM fun raw ↦ r.piece (String.ofList raw)
          return p :: ps : Except QueryFault (List Piece)) = .error e ↔
            (raws.mapM fun raw ↦ r.piece (String.ofList raw)) = .error e :=
        map_eq_error_iff (f := (p :: ·))
      rw [hrest, ih]
      constructor
      · rintro ⟨before, raw', after, hraws, hbefore, hspoils⟩
        refine ⟨String.ofList raw :: before, raw', after, by rw [hraws]; rfl, ?_, hspoils⟩
        exact List.forall_mem_cons.2 ⟨⟨p, piece_eq_ok_iff.1 hp⟩, hbefore⟩
      · rintro ⟨before, raw', after, hraws, hbefore, hspoils⟩
        cases before with
        | nil =>
          obtain ⟨rfl, -⟩ := List.cons.inj hraws
          rw [piece_eq_error_iff.2 hspoils] at hp
          exact absurd hp (by simp)
        | cons b before =>
          obtain ⟨-, hraws⟩ := List.cons.inj hraws
          exact ⟨before, raw', after, hraws, (List.forall_mem_cons.1 hbefore).2, hspoils⟩

/-- **The fault of the pieces is that of the first one that has one.** -/
theorem pieces_eq_error_iff {query : String} {e : QueryFault} :
    r.pieces query = .error e ↔
      ∃ before raw after, (blankFreePieces query.toList).map String.ofList =
          before ++ raw :: after ∧
        (∀ b ∈ before, ∃ p, Lexes r b p) ∧ Spoils r raw e :=
  mapM_eq_error_iff

end QueryReader

/-! ### Faults of the order -/

/-- An operand and a connective before an operand do not move the break. -/
theorem Breaks.cons {g : Formula} {raw' : String} {rest : List Piece} {e : QueryFault}
    (h : Breaks (.operand g raw' :: rest) e) (f : Formula) (raw : String) (c : Connective)
    (sign : String) :
    Breaks (.operand f raw :: .connective c sign :: .operand g raw' :: rest) e := by
  generalize hps : Piece.operand g raw' :: rest = ps at h
  cases h with
  | empty => exact absurd hps (by simp)
  | leading => exact absurd hps (by simp)
  | consecutive halternates d d' s s' after =>
    exact .consecutive (.cons f raw c sign halternates) d d' s s' after
  | @missing before f' r halternates g' r' after =>
    have hcons : Alternates
        ((.operand f raw :: .connective c sign :: before) ++ [.operand f' r]) :=
      .cons f raw c sign halternates
    exact .missing hcons g' r' after
  | trailing halternates d s => exact .trailing (.cons f raw c sign halternates) d s

namespace Formula

/-- The recursion passes over alternating pieces, and then only the text of the last operand
matters for what is reported. -/
theorem exists_fromOperand_append {ps : List Piece} (h : Alternates ps) :
    ∃ before g last, ps = before ++ [.operand g last] ∧
      ∀ (d : Option Formula) (l : Formula) {f : Formula} {raw : String} {tail : List Piece},
        ps = .operand f raw :: tail →
          ∃ d' l', ∀ rest, fromOperand d l raw (tail ++ rest) = fromOperand d' l' last rest := by
  induction h with
  | single f raw =>
    refine ⟨[], f, raw, rfl, fun d l f' raw' tail htail ↦ ?_⟩
    cases htail
    exact ⟨d, l, fun rest ↦ rfl⟩
  | @cons f raw c sign ps h ih =>
    obtain ⟨before, g, last, hlast, hfrom⟩ := ih
    refine ⟨.operand f raw :: .connective c sign :: before, g, last, by rw [hlast]; rfl,
      fun d l f' raw' tail htail ↦ ?_⟩
    cases htail
    obtain ⟨f', raw'', tail, rfl⟩ := h.exists_eq
    cases c with
    | and =>
      obtain ⟨d', l', hrest⟩ := hfrom d (.and l f') rfl
      exact ⟨d', l', fun rest ↦ hrest rest⟩
    | or =>
      obtain ⟨d', l', hrest⟩ := hfrom (some (orGroup d l)) f' rfl
      exact ⟨d', l', fun rest ↦ hrest rest⟩

/-- What the recursion reports behind an operand is the break. -/
theorem breaks_of_fromOperand {d : Option Formula} {l g : Formula} {last : String}
    {rest : List Piece} {e : QueryFault} (h : fromOperand d l last rest = .error e) :
    Breaks (.operand g last :: rest) e := by
  -- The cases of the recursion are the shapes of what remains; all but the last two end it.
  fun_induction fromOperand d l last rest generalizing g with
  | case1 d l last => exact absurd h (by simp)
  | case2 d l last f raw rest =>
    obtain rfl := Except.error.inj h
    exact @Breaks.missing [] g last (.single g last) f raw rest
  | case3 d l last c sign =>
    obtain rfl := Except.error.inj h
    exact .trailing (.single g last) c sign
  | case4 d l last c sign c' sign' rest =>
    obtain rfl := Except.error.inj h
    exact .consecutive (.single g last) c c' sign sign' rest
  | case5 d l last sign f raw rest ih => exact (ih (g := f) h).cons g last .and sign
  | case6 d l last sign f raw rest ih => exact (ih (g := f) h).cons g last .or sign

/-- What alternating pieces and the pieces behind them come to. -/
theorem exists_ofPieces_append {ps : List Piece} (h : Alternates ps) :
    ∃ before g last d l, ps = before ++ [.operand g last] ∧
      ∀ rest, ofPieces (ps ++ rest) = fromOperand d l last rest := by
  obtain ⟨before, g, last, hlast, hfrom⟩ := exists_fromOperand_append h
  obtain ⟨f, raw, tail, rfl⟩ := h.exists_eq
  obtain ⟨d, l, hrest⟩ := hfrom none f rfl
  refine ⟨before, g, last, d, l, hlast, fun rest ↦ ?_⟩
  rw [List.cons_append, ofPieces_eq]
  exact hrest rest

/-- **Pieces in a wrong order have the fault of their leftmost break.** -/
theorem ofPieces_eq_error_iff {ps : List Piece} {e : QueryFault} :
    ofPieces ps = .error e ↔ Breaks ps e := by
  constructor
  · intro h
    rw [ofPieces_eq] at h
    match ps with
    | [] =>
      obtain rfl := Except.error.inj h
      exact .empty
    | .connective c sign :: rest =>
      obtain rfl := Except.error.inj h
      exact .leading c sign rest
    | .operand f raw :: rest => exact breaks_of_fromOperand h
  · intro h
    cases h with
    | empty => rw [ofPieces_eq]
    | leading c sign rest => rw [ofPieces_eq]
    | consecutive halternates c c' sign sign' rest =>
      obtain ⟨before, g, last, d, l, -, hrest⟩ := exists_ofPieces_append halternates
      rw [hrest]
      rfl
    | @missing ps f raw halternates g raw' rest =>
      obtain ⟨before, g', last, d, l, hlast, hrest⟩ := exists_ofPieces_append halternates
      -- The last operand that was passed is the one before the break.
      obtain ⟨-, hlast⟩ := List.append_inj' hlast rfl
      cases hlast
      rw [List.append_cons, hrest]
      rfl
    | trailing halternates c sign =>
      obtain ⟨before, g, last, d, l, -, hrest⟩ := exists_ofPieces_append halternates
      rw [hrest]
      rfl

end Formula

/-! ### Rejected queries -/

theorem Lexes.raw_eq {r : QueryReader} {raw : String} {p : Piece} (h : Lexes r raw p) :
    p.raw = raw := by
  cases h <;> rfl

theorem map_raw_of_forall₂ {r : QueryReader} {raws : List String} {ps : List Piece}
    (h : List.Forall₂ (Lexes r) raws ps) : ps.map Piece.raw = raws := by
  induction h with
  | nil => rfl
  | cons hlex _ ih => rw [List.map_cons, hlex.raw_eq, ih]

/-- The texts in a fault of the order are texts of pieces. -/
theorem Breaks.mem_of_mem_parts {ps : List Piece} {e : QueryFault} (h : Breaks ps e)
    {part : String × String} (hpart : part ∈ e.parts) : part.2 ∈ ps.map Piece.raw := by
  cases h with
  | empty => exact absurd hpart List.not_mem_nil
  | leading | trailing =>
    obtain rfl := List.mem_singleton.1 hpart
    simp [Piece.raw]
  | consecutive | missing =>
    obtain rfl | rfl : part = _ ∨ part = _ := by simpa [QueryFault.parts] using hpart
    · simp [Piece.raw]
    · simp [Piece.raw]

/-- The texts in a fault of a piece are the text of the piece, or what stands behind its
negation. -/
theorem Spoils.eq_of_mem_parts {r : QueryReader} {raw : String} {e : QueryFault}
    (h : Spoils r raw e) {part : String × String} (hpart : part ∈ e.parts) :
    part.2 = raw ∨ e = .noIndexableText part.2 ∧
      raw.toList = r.spelling.not :: part.2.toList := by
  cases h with
  | negation hand hor hraw hne hnot hterms =>
    obtain rfl := List.mem_singleton.1 hpart
    exact .inr ⟨rfl, hraw⟩
  | emptyNegation | doubleNegation | word =>
    obtain rfl := List.mem_singleton.1 hpart
    exact .inl rfl

namespace QueryReader

/-- A query is rejected for one of its pieces, or for their order. -/
theorem read_eq_error_iff {r : QueryReader} {query : String} {e : QueryFault} :
    r.read query = .error e ↔ r.pieces query = .error e ∨
      ∃ ps, r.pieces query = .ok ps ∧ Formula.ofPieces ps = .error e := by
  rw [read]
  cases r.pieces query with
  | error e' => simp
  | ok ps => simp

/-- **Every rejected query has the fault that its pieces decide.** The fault is that of the first
piece that is neither a connective nor an operand, or else that of the leftmost break of the
alternation. Its texts are pieces of the query as they were typed; only a word without terms is
given without its negation. -/
theorem rejection_is_decided_by_pieces (r : QueryReader) (query : String) (e : QueryFault) :
    (r.read query = .error e ↔
      Rejects r ((blankFreePieces query.toList).map String.ofList) e) ∧
    (Rejects r ((blankFreePieces query.toList).map String.ofList) e → ∀ part ∈ e.parts,
      part.2 ∈ (blankFreePieces query.toList).map String.ofList ∨
        e = .noIndexableText part.2 ∧
          ∃ raw ∈ (blankFreePieces query.toList).map String.ofList,
            raw.toList = r.spelling.not :: part.2.toList) := by
  constructor
  · rw [read_eq_error_iff, pieces_eq_error_iff]
    constructor
    · rintro (⟨before, raw, after, hraws, hbefore, hspoils⟩ | ⟨ps, hps, hfault⟩)
      · exact .piece hraws hbefore hspoils
      · exact .order (pieces_eq_ok_iff.1 hps) (Formula.ofPieces_eq_error_iff.1 hfault)
    · intro h
      cases h with
      | piece hraws hbefore hspoils => exact .inl ⟨_, _, _, hraws, hbefore, hspoils⟩
      | order hps hbreaks =>
        exact .inr ⟨_, pieces_eq_ok_iff.2 hps, Formula.ofPieces_eq_error_iff.2 hbreaks⟩
  · intro h part hpart
    cases h with
    | @piece before after raw _ hraws hbefore hspoils =>
      have hmem : raw ∈ (blankFreePieces query.toList).map String.ofList := by simp [hraws]
      rcases hspoils.eq_of_mem_parts hpart with hraw | ⟨he, hraw⟩
      · exact .inl (hraw ▸ hmem)
      · exact .inr ⟨he, raw, hmem, hraw⟩
    | order hps hbreaks =>
      rw [← map_raw_of_forall₂ hps]
      exact .inl (hbreaks.mem_of_mem_parts hpart)

end QueryReader

end Concordance
