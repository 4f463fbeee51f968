import Concordance.Proofs.Answer
import Concordance.Proofs.Cut
import Concordance.Proofs.QueryGrammar

/-!
# Queries put together

Two queries with a connective between them are read piece by piece: the pieces of the whole are
those of the first, the connective, and those of the second (`pieces_connect`). The whole alternates
exactly if both parts do (`alternates_append_iff`), so it is accepted exactly if both parts are.

Its formula is not the one that joins the formulas of the parts, because the groups, and the
operands of a group, are joined from the left over the whole query. What does not change is the list
of what is joined. A disjunction sign keeps the groups of the two parts apart
(`exists_formulaOf?_or`), and where there is no disjunction sign there is one group on both sides
(`exists_formulaOf?_and`). The answer depends on that list alone, because an answer is in a
disjunction if it is in some member, and in a conjunction if it is in all of them. So union and
intersection of answers come out although the trees differ.
-/

namespace Concordance

/-! ### Alternation -/

/-- A connective between pieces that alternate leaves them alternating. -/
theorem Alternates.append {ps qs : List Piece} (hps : Alternates ps) (c : Connective)
    (sign : String) (hqs : Alternates qs) : Alternates (ps ++ .connective c sign :: qs) := by
  induction hps with
  | single f raw => exact .cons f raw c sign hqs
  | cons f raw c' sign' _ ih => exact .cons f raw c' sign' ih

theorem Alternates.of_append {ps qs : List Piece} {c : Connective} {sign : String}
    (h : Alternates (ps ++ .connective c sign :: qs)) : Alternates ps ∧ Alternates qs := by
  generalize hall : ps ++ .connective c sign :: qs = all at h
  -- the constructors take two pieces at a time, and so does the case split on the first part
  induction h generalizing ps with
  | single f raw =>
    match ps, hall with
    | [_], hall => exact absurd (congrArg List.length hall) (by simp)
    | _ :: _ :: _, hall => exact absurd (congrArg List.length hall) (by simp)
  | cons f raw c' sign' h ih =>
    match ps, hall with
    | [_], rfl => exact ⟨.single f raw, h⟩
    | _ :: _ :: ps, hall =>
      simp only [List.cons_append, List.cons.injEq] at hall
      obtain ⟨rfl, rfl, hall⟩ := hall
      obtain ⟨hps, hqs⟩ := ih hall
      exact ⟨.cons f raw c' sign' hps, hqs⟩

/-- **Pieces around a connective alternate exactly if those on both sides do.** -/
theorem alternates_append_iff {ps qs : List Piece} {c : Connective} {sign : String} :
    Alternates (ps ++ .connective c sign :: qs) ↔ Alternates ps ∧ Alternates qs :=
  ⟨Alternates.of_append, fun ⟨hps, hqs⟩ ↦ hps.append c sign hqs⟩

/-! ### Answers to joined formulas -/

namespace Index

variable {x : Index} {id : DocId} {f : Formula} {fs : List Formula}

/-- A disjunction of several formulas is answered with what any of them is answered with, however it
is nested. -/
theorem mem_answer_of_joined?_or (h : Formula.joined? .or fs = some f) :
    id ∈ x.answer f ↔ ∃ g ∈ fs, id ∈ x.answer g := by
  cases fs with
  | nil => exact absurd h (by simp [Formula.joined?])
  | cons g fs =>
    obtain rfl := Option.some.inj h
    clear h
    induction fs generalizing g with
    | nil => simp
    | cons g' fs ih =>
      rw [List.foldl_cons, ih]
      simp [answer, or_assoc]

theorem mem_answer_of_joined?_and (h : Formula.joined? .and fs = some f) :
    id ∈ x.answer f ↔ ∀ g ∈ fs, id ∈ x.answer g := by
  cases fs with
  | nil => exact absurd h (by simp [Formula.joined?])
  | cons g fs =>
    obtain rfl := Option.some.inj h
    clear h
    induction fs generalizing g with
    | nil => simp
    | cons g' fs ih =>
      rw [List.foldl_cons, ih]
      simp [answer, and_assoc]

end Index

/-! ### Formulas of pieces around a connective -/

namespace Formula

variable {ps qs : List Piece} {f g : Formula} {sign : String}

theorem exists_joined?_append {op : Formula → Formula → Formula} {fs : List Formula}
    (h : joined? op fs = some f) (gs : List Formula) : ∃ g, joined? op (fs ++ gs) = some g := by
  cases fs with
  | nil => exact absurd h (by simp [joined?])
  | cons g fs => exact ⟨_, rfl⟩

/-- The formula of pieces is the disjunction of their groups. -/
theorem formulaOf?_eq_some_iff :
    formulaOf? ps = some f ↔
      ∃ fs, (cut Piece.isOr ps).mapM conjunctionOf? = some fs ∧ joined? .or fs = some f :=
  Option.bind_eq_some_iff

/-- **A disjunction sign unites answers.** -/
theorem exists_formulaOf?_or (hf : formulaOf? ps = some f) (hg : formulaOf? qs = some g) :
    ∃ h, formulaOf? (ps ++ .connective .or sign :: qs) = some h ∧
      ∀ (x : Index) (id : DocId), id ∈ x.answer h ↔ id ∈ x.answer f ∨ id ∈ x.answer g := by
  obtain ⟨fs, hfs, hf⟩ := formulaOf?_eq_some_iff.1 hf
  obtain ⟨gs, hgs, hg⟩ := formulaOf?_eq_some_iff.1 hg
  obtain ⟨h, hh⟩ := exists_joined?_append hf gs
  have hgroups : (cut Piece.isOr (ps ++ .connective .or sign :: qs)).mapM conjunctionOf? =
      some (fs ++ gs) := by
    rw [cut_append_cons rfl, List.mapM_append, hfs, hgs]
    rfl
  refine ⟨h, formulaOf?_eq_some_iff.2 ⟨fs ++ gs, hgroups, hh⟩, fun x id ↦ ?_⟩
  rw [Index.mem_answer_of_joined?_or hh, Index.mem_answer_of_joined?_or hf,
    Index.mem_answer_of_joined?_or hg]
  simp only [List.mem_append, or_and_right, exists_or]

/-- Without disjunction signs there is one group. -/
theorem formulaOf?_eq_some_iff_of_forall (h : ∀ p ∈ ps, p.isOr = false) :
    formulaOf? ps = some f ↔ joined? .and (ps.filterMap Piece.formula?) = some f := by
  rw [formulaOf?, cut_of_forall_not_sep h, List.mapM_cons, List.mapM_nil]
  show (conjunctionOf? ps >>= fun g ↦ some [g]).bind (joined? .or) = some f ↔
    conjunctionOf? ps = some f
  cases conjunctionOf? ps with
  | none => simp
  | some g => simp [joined?]

/-- **A conjunction sign intersects answers**, as long as there is no disjunction sign, which would
bind weaker. -/
theorem exists_formulaOf?_and (hps : ∀ p ∈ ps, p.isOr = false) (hqs : ∀ p ∈ qs, p.isOr = false)
    (hf : formulaOf? ps = some f) (hg : formulaOf? qs = some g) :
    ∃ h, formulaOf? (ps ++ .connective .and sign :: qs) = some h ∧
      ∀ (x : Index) (id : DocId), id ∈ x.answer h ↔ id ∈ x.answer f ∧ id ∈ x.answer g := by
  have hall : ∀ p ∈ ps ++ .connective .and sign :: qs, p.isOr = false := by
    intro p hp
    rcases List.mem_append.1 hp with hp | hp
    · exact hps p hp
    · rcases List.mem_cons.1 hp with rfl | hp
      · rfl
      · exact hqs p hp
  rw [formulaOf?_eq_some_iff_of_forall hps] at hf
  rw [formulaOf?_eq_some_iff_of_forall hqs] at hg
  have hoperands : (ps ++ .connective .and sign :: qs).filterMap Piece.formula? =
      ps.filterMap Piece.formula? ++ qs.filterMap Piece.formula? :=
    List.filterMap_append
  obtain ⟨h, hh⟩ := exists_joined?_append hf (qs.filterMap Piece.formula?)
  rw [← hoperands] at hh
  refine ⟨h, (formulaOf?_eq_some_iff_of_forall hall).2 hh, fun x id ↦ ?_⟩
  rw [Index.mem_answer_of_joined?_and hh, Index.mem_answer_of_joined?_and hf,
    Index.mem_answer_of_joined?_and hg, hoperands]
  simp only [List.mem_append, or_imp, forall_and]

end Formula

/-! ### Texts of queries -/

/-- The spellings of the connectives can stand in a query, and are told apart. -/
structure OperatorSpelling.IsUsable (o : OperatorSpelling) : Prop where
  /-- The conjunction sign is not empty. -/
  and_ne_empty : o.and ≠ ""
  /-- The disjunction sign is not empty. -/
  or_ne_empty : o.or ≠ ""
  /-- The conjunction sign is one piece. -/
  not_blank_and : ∀ c ∈ o.and.toList, isBlank c = false
  /-- The disjunction sign is one piece. -/
  not_blank_or : ∀ c ∈ o.or.toList, isBlank c = false
  /-- They are spelled differently. -/
  and_ne_or : o.and ≠ o.or

namespace QueryReader

variable {r : QueryReader} {q q' w : String} {f : Formula} {c : Connective} {sign : String}

/-- The reader accepts a query. -/
def Accepts (r : QueryReader) (q : String) : Prop := ∃ f, r.read q = .ok f

/-- A query is accepted with the formula of its pieces, if they alternate. -/
theorem read_eq_ok_iff :
    r.read q = .ok f ↔
      ∃ ps, r.pieces q = .ok ps ∧ Alternates ps ∧ Formula.formulaOf? ps = some f := by
  rw [read]
  cases r.pieces q with
  | error e => simp
  | ok ps => simp [Formula.ofPieces_eq_ok_iff]

/-- A query is accepted exactly if its pieces alternate. -/
theorem accepts_iff : r.Accepts q ↔ ∃ ps, r.pieces q = .ok ps ∧ Alternates ps := by
  constructor
  · rintro ⟨f, hf⟩
    obtain ⟨ps, hps, halternates, -⟩ := read_eq_ok_iff.1 hf
    exact ⟨ps, hps, halternates⟩
  · rintro ⟨ps, hps, halternates⟩
    obtain ⟨f, hf⟩ := Formula.exists_formulaOf?_eq halternates
    exact ⟨f, read_eq_ok_iff.2 ⟨ps, hps, halternates, hf⟩⟩

/-- **The pieces of two queries with a connective between them.** -/
theorem pieces_connect (hsign : r.piece sign = .ok (.connective c sign)) (hne : sign ≠ "")
    (hblank : ∀ c ∈ sign.toList, isBlank c = false) (q q' : String) :
    r.pieces (q ++ " " ++ sign ++ " " ++ q') =
      (r.pieces q).bind fun ps ↦
        (r.pieces q').bind fun qs ↦ .ok (ps ++ .connective c sign :: qs) := by
  have hlist : (q ++ " " ++ sign ++ " " ++ q').toList =
      q.toList ++ ' ' :: (sign.toList ++ ' ' :: q'.toList) := by
    have hspace : (" " : String).toList = [' '] := rfl
    simp [String.toList_append, hspace]
  have hstretches : blankFreePieces (q ++ " " ++ sign ++ " " ++ q').toList =
      blankFreePieces q.toList ++ sign.toList :: blankFreePieces q'.toList := by
    rw [hlist]
    exact runs_between (by decide) (by decide) (fun c hc ↦ by simp [hblank c hc])
      (by simpa using hne) q.toList q'.toList
  rw [pieces, hstretches, List.mapM_append, List.mapM_cons, String.ofList_toList, hsign]
  show (r.pieces q >>= fun ps ↦ (r.pieces q' >>= fun qs ↦ pure (.connective c sign :: qs)) >>=
    fun qs ↦ pure (ps ++ qs)) = _
  cases r.pieces q with
  | error e => rfl
  | ok ps => cases r.pieces q' <;> rfl

/-- The pieces of the whole are known exactly if those of both parts are. -/
theorem pieces_connect_eq_ok_iff (hsign : r.piece sign = .ok (.connective c sign))
    (hne : sign ≠ "") (hblank : ∀ c ∈ sign.toList, isBlank c = false) {all : List Piece} :
    r.pieces (q ++ " " ++ sign ++ " " ++ q') = .ok all ↔
      ∃ ps qs, r.pieces q = .ok ps ∧ r.pieces q' = .ok qs ∧
        all = ps ++ .connective c sign :: qs := by
  rw [pieces_connect hsign hne hblank]
  cases r.pieces q with
  | error e => simp [Except.bind]
  | ok ps =>
    cases r.pieces q' with
    | error e => simp [Except.bind]
    | ok qs => simp [Except.bind, eq_comm]

/-- **Two queries with a connective between them are accepted together.** -/
theorem accepts_connect_iff (hsign : r.piece sign = .ok (.connective c sign)) (hne : sign ≠ "")
    (hblank : ∀ c ∈ sign.toList, isBlank c = false) :
    r.Accepts (q ++ " " ++ sign ++ " " ++ q') ↔ r.Accepts q ∧ r.Accepts q' := by
  rw [accepts_iff, accepts_iff, accepts_iff]
  constructor
  · rintro ⟨all, hall, halternates⟩
    obtain ⟨ps, qs, hps, hqs, rfl⟩ := (pieces_connect_eq_ok_iff hsign hne hblank).1 hall
    obtain ⟨halternates, halternates'⟩ := alternates_append_iff.1 halternates
    exact ⟨⟨ps, hps, halternates⟩, qs, hqs, halternates'⟩
  · rintro ⟨⟨ps, hps, halternates⟩, qs, hqs, halternates'⟩
    exact ⟨_, (pieces_connect_eq_ok_iff hsign hne hblank).2 ⟨ps, qs, hps, hqs, rfl⟩,
      alternates_append_iff.2 ⟨halternates, halternates'⟩⟩

/-- Where no piece is spelled as the disjunction sign, none is read as it. -/
private theorem isOr_of_forall₂ {raws : List String} {ps : List Piece}
    (h : List.Forall₂ (Lexes r) raws ps) (hor : r.spelling.or ∉ raws) :
    ∀ p ∈ ps, p.isOr = false := by
  induction h with
  | nil => simp
  | cons hlex _ ih =>
    rw [List.mem_cons, not_or] at hor
    refine List.forall_mem_cons.2 ⟨?_, ih hor.2⟩
    cases hlex with
    | or => exact absurd rfl hor.1
    | _ => rfl

/-- Where the disjunction sign is no piece of a query, no piece of it is read as one. -/
theorem isOr_of_mem_pieces {ps : List Piece} (hps : r.pieces q = .ok ps)
    (hor : r.spelling.or.toList ∉ blankFreePieces q.toList) : ∀ p ∈ ps, p.isOr = false := by
  refine isOr_of_forall₂ (pieces_eq_ok_iff.1 hps) fun hmem ↦ ?_
  obtain ⟨raw, hraw, heq⟩ := List.mem_map.1 hmem
  rw [← heq, String.toList_ofList] at hor
  exact hor hraw

/-! ### Words -/

/-- A piece that is no connective is an operand. -/
theorem piece_of_ne (hand : w ≠ r.spelling.and) (hor : w ≠ r.spelling.or) :
    r.piece w = (r.operand w).map (.operand · w) := by
  rw [piece, if_neg hand, if_neg hor]

/-- A query of one piece that is no connective is read as that operand. -/
theorem read_of_ne (hblank : ∀ c ∈ w.toList, isBlank c = false) (hne : w ≠ "")
    (hand : w ≠ r.spelling.and) (hor : w ≠ r.spelling.or) : r.read w = r.operand w := by
  have hstretches : blankFreePieces w.toList = [w.toList] :=
    runs_of_forall (fun c hc ↦ by simp [hblank c hc]) (by simpa using hne)
  rw [read, pieces, hstretches, List.mapM_cons, List.mapM_nil, String.ofList_toList,
    piece_of_ne hand hor]
  cases r.operand w with
  | error e => rfl
  | ok f => exact Formula.ofPieces_eq _

/-- A word without a negation is read as the word. The empty word has no terms, and the empty query
has no pieces. -/
theorem read_word_eq_ok_iff (hblank : ∀ c ∈ w.toList, isBlank c = false)
    (hand : w ≠ r.spelling.and) (hor : w ≠ r.spelling.or)
    (hnot : w.toList.head? ≠ some r.spelling.not) : r.read w = .ok f ↔ r.word w = .ok f := by
  by_cases hne : w = ""
  · subst hne
    have hread : r.read "" = .error .empty := rfl
    rw [hread, word, terms_empty]
    simp
  · rw [read_of_ne hblank hne hand hor, operand_eq_ok_iff]
    constructor
    · rintro (⟨-, hword⟩ | ⟨w', g, hw', -⟩)
      · exact hword
      · rw [hw'] at hnot
        exact absurd rfl hnot
    · exact fun hword ↦ .inl ⟨hnot, hword⟩

/-- A word behind a negation is read as the negation of the word. -/
theorem read_negation_eq_ok_iff (hblank : ∀ c ∈ w.toList, isBlank c = false)
    (hblank' : isBlank r.spelling.not = false) (hnot : w.toList.head? ≠ some r.spelling.not)
    (hand : String.singleton r.spelling.not ++ w ≠ r.spelling.and)
    (hor : String.singleton r.spelling.not ++ w ≠ r.spelling.or) :
    r.read (String.singleton r.spelling.not ++ w) = .ok f ↔ ∃ g, r.word w = .ok g ∧ f = .not g := by
  have hlist : (String.singleton r.spelling.not ++ w).toList = r.spelling.not :: w.toList := by
    simp
  have hblank'' : ∀ c ∈ (String.singleton r.spelling.not ++ w).toList, isBlank c = false := by
    rw [hlist]
    exact List.forall_mem_cons.2 ⟨hblank', hblank⟩
  have hne : String.singleton r.spelling.not ++ w ≠ "" := by
    intro hempty
    rw [hempty] at hlist
    exact absurd hlist (by simp)
  rw [read_of_ne hblank'' hne hand hor, operand_eq_ok_iff, hlist]
  constructor
  · rintro (⟨hhead, -⟩ | ⟨w', g, hw', -, hword, rfl⟩)
    · exact absurd rfl hhead
    · obtain ⟨-, rfl⟩ := List.cons.inj hw'
      rw [String.ofList_toList] at hword
      exact ⟨g, hword, rfl⟩
  · rintro ⟨g, hword, rfl⟩
    refine .inr ⟨w.toList, g, rfl, hnot, ?_, rfl⟩
    rwa [String.ofList_toList]

end QueryReader

/-! ### Searches -/

namespace Index

variable {x : Index} {r : QueryReader} {query : String} {ids : List DocId}

theorem search_eq_ok_iff :
    x.search r query = .ok ids ↔ ∃ f, r.read query = .ok f ∧ ids = (x.answer f).toList := by
  rw [search]
  cases r.read query with
  | error e => simp
  | ok f => simp [eq_comm]

/-- The search for a query finds, in ascending order, the documents with a property. -/
def Finds (x : Index) (r : QueryReader) (query : String) (p : DocId → Prop) : Prop :=
  ∃ ids, x.search r query = .ok ids ∧ ids.Pairwise (· < ·) ∧ ∀ id, id ∈ ids ↔ p id

theorem finds_of_read {f : Formula} (h : r.read query = .ok f) {p : DocId → Prop}
    (hp : ∀ id, id ∈ x.answer f ↔ p id) : x.Finds r query p :=
  ⟨(x.answer f).toList, search_of_read h x, (x.answer f).ascending, hp⟩

/-- What a connective does to the formulas of its two sides, it does to the searches for them. -/
theorem finds_connect {c : Connective} {sign q q' : String} {join : Prop → Prop → Prop}
    (hsign : r.piece sign = .ok (.connective c sign)) (hne : sign ≠ "")
    (hblank : ∀ c ∈ sign.toList, isBlank c = false)
    (hjoin : ∀ ps qs f g, r.pieces q = .ok ps → r.pieces q' = .ok qs →
      Formula.formulaOf? ps = some f → Formula.formulaOf? qs = some g →
        ∃ h, Formula.formulaOf? (ps ++ .connective c sign :: qs) = some h ∧
          ∀ (x : Index) (id : DocId),
            id ∈ x.answer h ↔ join (id ∈ x.answer f) (id ∈ x.answer g))
    {ids ids' : List DocId} (hids : x.search r q = .ok ids) (hids' : x.search r q' = .ok ids') :
    x.Finds r (q ++ " " ++ sign ++ " " ++ q') fun id ↦ join (id ∈ ids) (id ∈ ids') := by
  obtain ⟨f, hf, rfl⟩ := search_eq_ok_iff.1 hids
  obtain ⟨g, hg, rfl⟩ := search_eq_ok_iff.1 hids'
  obtain ⟨ps, hps, halternates, hf⟩ := QueryReader.read_eq_ok_iff.1 hf
  obtain ⟨qs, hqs, halternates', hg⟩ := QueryReader.read_eq_ok_iff.1 hg
  obtain ⟨h, hh, hanswer⟩ := hjoin ps qs f g hps hqs hf hg
  have hread : r.read (q ++ " " ++ sign ++ " " ++ q') = .ok h :=
    QueryReader.read_eq_ok_iff.2
      ⟨_, (QueryReader.pieces_connect_eq_ok_iff hsign hne hblank).2 ⟨ps, qs, hps, hqs, rfl⟩,
        halternates.append c sign halternates', hh⟩
  exact finds_of_read hread (hanswer x)

/-- **Searches for queries put together.** With a disjunction sign between them, two queries are
accepted together and find what either finds. The same holds of a conjunction sign and what both
find, unless a disjunction sign in one of the queries takes it apart. A negation character in front
of a word is accepted as the word is, and finds the other documents. -/
theorem search_composes (r : QueryReader) (ho : r.spelling.IsUsable) (x : Index) :
    (∀ q q' : String,
      (r.Accepts (q ++ " " ++ r.spelling.or ++ " " ++ q') ↔ r.Accepts q ∧ r.Accepts q') ∧
        ∀ ids ids', x.search r q = .ok ids → x.search r q' = .ok ids' →
          x.Finds r (q ++ " " ++ r.spelling.or ++ " " ++ q') fun id ↦ id ∈ ids ∨ id ∈ ids') ∧
      (∀ q q' : String, r.spelling.or.toList ∉ blankFreePieces q.toList →
        r.spelling.or.toList ∉ blankFreePieces q'.toList →
          (r.Accepts (q ++ " " ++ r.spelling.and ++ " " ++ q') ↔ r.Accepts q ∧ r.Accepts q') ∧
            ∀ ids ids', x.search r q = .ok ids → x.search r q' = .ok ids' →
              x.Finds r (q ++ " " ++ r.spelling.and ++ " " ++ q')
                fun id ↦ id ∈ ids ∧ id ∈ ids') ∧
      ∀ w : String, (∀ c ∈ w.toList, isBlank c = false) → w ≠ r.spelling.and →
        w ≠ r.spelling.or → w.toList.head? ≠ some r.spelling.not →
          isBlank r.spelling.not = false →
            String.singleton r.spelling.not ++ w ≠ r.spelling.and →
              String.singleton r.spelling.not ++ w ≠ r.spelling.or →
                (r.Accepts (String.singleton r.spelling.not ++ w) ↔ r.Accepts w) ∧
                  ∀ ids, x.search r w = .ok ids →
                    x.Finds r (String.singleton r.spelling.not ++ w)
                      fun id ↦ id ∈ x.documents ∧ id ∉ ids := by
  have hor : r.piece r.spelling.or = .ok (.connective .or r.spelling.or) :=
    QueryReader.piece_eq_ok_iff.2 (.or ho.and_ne_or.symm)
  have hand : r.piece r.spelling.and = .ok (.connective .and r.spelling.and) :=
    QueryReader.piece_eq_ok_iff.2 .and
  refine ⟨fun q q' ↦ ⟨?_, fun ids ids' hids hids' ↦ ?_⟩,
    fun q q' hq hq' ↦ ⟨?_, fun ids ids' hids hids' ↦ ?_⟩,
    fun w hblank hne hne' hnot hblank' hand hor ↦ ?_⟩
  · exact QueryReader.accepts_connect_iff hor ho.or_ne_empty ho.not_blank_or
  · refine finds_connect hor ho.or_ne_empty ho.not_blank_or ?_ hids hids'
    intro ps qs f g _ _ hf hg
    exact Formula.exists_formulaOf?_or hf hg
  · exact QueryReader.accepts_connect_iff hand ho.and_ne_empty ho.not_blank_and
  · refine finds_connect hand ho.and_ne_empty ho.not_blank_and ?_ hids hids'
    intro ps qs f g hps hqs hf hg
    exact Formula.exists_formulaOf?_and (QueryReader.isOr_of_mem_pieces hps hq)
      (QueryReader.isOr_of_mem_pieces hqs hq') hf hg
  · have hword {f : Formula} := QueryReader.read_word_eq_ok_iff (f := f) hblank hne hne' hnot
    have hnegation {f : Formula} :=
      QueryReader.read_negation_eq_ok_iff (f := f) hblank hblank' hnot hand hor
    constructor
    · constructor
      · rintro ⟨f, hf⟩
        obtain ⟨g, hg, -⟩ := hnegation.1 hf
        exact ⟨g, hword.2 hg⟩
      · rintro ⟨g, hg⟩
        exact ⟨.not g, hnegation.2 ⟨g, hword.1 hg, rfl⟩⟩
    · intro ids hids
      obtain ⟨g, hg, rfl⟩ := search_eq_ok_iff.1 hids
      exact finds_of_read (hnegation.2 ⟨g, hword.1 hg, rfl⟩) fun id ↦ SortedSet.mem_diff

/-- An index of four documents. -/
def fourDocuments : Index :=
  ((((∅ : Index).add 1 ["кот"]).add 2 ["пёс"]).add 3 ["кот", "пёс"]).add 4 []

/-- Two conjunctions joined by a disjunction, in the Russian spelling, and the negation of a
hyphenated word. -/
theorem search_composes_of_fourDocuments :
    (∃ f, (QueryReader.mk .russian .cyrillic).read "кот И !пёс ИЛИ пёс И !кот" = .ok f) ∧
      fourDocuments.Finds ⟨.russian, .cyrillic⟩ "кот И !пёс ИЛИ пёс И !кот"
        (fun id ↦ id ∈ [1] ∨ id ∈ [2]) ∧
      fourDocuments.Finds ⟨.russian, .cyrillic⟩ "кот И пёс" (fun id ↦ id ∈ [1, 3] ∧ id ∈ [2, 3]) ∧
      fourDocuments.Finds ⟨.russian, .cyrillic⟩ "!кот-пёс"
        (fun id ↦ id ∈ fourDocuments.documents ∧ id ∉ [3]) := by
  have hblank {l : List Char} (h : l.any isBlank = false) : ∀ c ∈ l, isBlank c = false :=
    fun c hc ↦ by simpa using List.any_eq_false.1 h c hc
  have husable : OperatorSpelling.IsUsable .russian :=
    ⟨by decide, by decide, hblank (by decide), hblank (by decide), by decide⟩
  obtain ⟨hor, hand, hnot⟩ := search_composes ⟨.russian, .cyrillic⟩ husable fourDocuments
  have hleft : (QueryReader.mk .russian .cyrillic).read "кот И !пёс" =
      .ok (.and (.term "кот") (.not (.term "пёс"))) := by decide +kernel
  have hright : (QueryReader.mk .russian .cyrillic).read "пёс И !кот" =
      .ok (.and (.term "пёс") (.not (.term "кот"))) := by decide +kernel
  refine ⟨(hor "кот И !пёс" "пёс И !кот").1.2 ⟨⟨_, hleft⟩, ⟨_, hright⟩⟩, ?_, ?_, ?_⟩
  · exact (hor "кот И !пёс" "пёс И !кот").2 [1] [2] (by decide +kernel) (by decide +kernel)
  · exact (hand "кот" "пёс" (by decide) (by decide)).2 [1, 3] [2, 3] (by decide +kernel)
      (by decide +kernel)
  · exact (hnot "кот-пёс" (hblank (by decide)) (by decide) (by decide) (by decide) (by decide)
      (by decide) (by decide)).2 [3] (by decide +kernel)

end Index

end Concordance
