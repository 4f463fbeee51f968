import Concordance.Query.Piece

/-!
# Reading a query

Operands and connectives alternate; conjunction binds tighter than disjunction and both associate to
the left, so that

```
disjunction := conjunction (OR conjunction)*
conjunction := operand (AND operand)*
```

The pieces are read through a *cursor*, which stands between the pieces that were passed and those
that remain. The passed pieces matter only for what is reported: where an operand is expected and
missing, the connective before the cursor decides which fault it is. The two loops take every
connective they meet, so a piece that remains at the end is an operand that follows an operand.
-/

namespace Concordance

/-- A place between the pieces of a query. -/
structure Cursor where
  /-- The pieces before the place, nearest first. -/
  passed : List Piece
  /-- The pieces after the place. -/
  rest : List Piece
  deriving DecidableEq, Repr

namespace Cursor

/-- The place before the first piece. -/
def start (pieces : List Piece) : Cursor :=
  ⟨[], pieces⟩

/-- The number of pieces before the place. -/
def position (k : Cursor) : Nat :=
  k.passed.length

/-- Read an operand. -/
def operand (k : Cursor) : Except QueryFault (Formula × Cursor) :=
  match k.rest, k.passed with
  | .operand f raw :: rest, passed => .ok (f, ⟨.operand f raw :: passed, rest⟩)
  | .connective _ raw :: _, [] => .error (.leadingOperator raw)
  | .connective _ raw :: _, before :: _ => .error (.consecutiveOperators before.raw raw)
  | [], before :: _ => .error (.trailingOperator before.raw)
  | [], [] => .error .empty

/-- Step over the connective `c`, if it is the next piece. -/
def over? (c : Connective) (k : Cursor) : Option Cursor :=
  match k.rest with
  | .connective d raw :: rest => if d = c then some ⟨.connective d raw :: k.passed, rest⟩ else none
  | _ => none

/-- Reading an operand takes one piece. -/
theorem length_rest_of_operand {k k' : Cursor} {f : Formula} (h : k.operand = .ok (f, k')) :
    k'.rest.length + 1 = k.rest.length := by
  unfold operand at h
  split at h <;> cases h
  next hrest => simp [hrest]

theorem length_rest_of_over? {c : Connective} {k k' : Cursor} (h : k.over? c = some k') :
    k'.rest.length + 1 = k.rest.length := by
  unfold over? at h
  split at h
  · next hrest =>
    split at h <;> cases h
    simp [hrest]
  · cases h

/-- Read the operands that follow `left` and a conjunction sign. -/
def conjuncts (left : Formula) (k : Cursor) : Except QueryFault (Formula × Cursor) :=
  match _h : k.over? .and with
  | none => .ok (left, k)
  | some k₁ =>
    match _h₁ : k₁.operand with
    | .error e => .error e
    | .ok (right, k₂) => conjuncts (.and left right) k₂
  termination_by k.rest.length
  decreasing_by
    have := length_rest_of_over? _h
    have := length_rest_of_operand _h₁
    omega

/-- Read a conjunction. -/
def conjunction (k : Cursor) : Except QueryFault (Formula × Cursor) :=
  match k.operand with
  | .error e => .error e
  | .ok (left, k₁) => k₁.conjuncts left

/-- The inner loop gives no piece back, by induction on the pieces that remain. -/
theorem length_rest_of_conjuncts {left f : Formula} {k k' : Cursor}
    (h : k.conjuncts left = .ok (f, k')) : k'.rest.length ≤ k.rest.length := by
  fun_induction conjuncts left k with
  | case1 left k => cases h; exact Nat.le_refl _
  | case2 => cases h
  | case3 left k k₁ h₁ right k₂ h₂ ih =>
    have := length_rest_of_over? h₁
    have := length_rest_of_operand h₂
    have := ih h
    omega

/-- A group takes a piece at least, so that the outer loop comes to an end. -/
theorem length_rest_of_conjunction {f : Formula} {k k' : Cursor}
    (h : k.conjunction = .ok (f, k')) : k'.rest.length < k.rest.length := by
  unfold conjunction at h
  split at h
  · cases h
  · next h₁ =>
    have := length_rest_of_operand h₁
    have := length_rest_of_conjuncts h
    omega

/-- Read the conjunctions that follow `left` and a disjunction sign. -/
def disjuncts (left : Formula) (k : Cursor) : Except QueryFault (Formula × Cursor) :=
  match _h : k.over? .or with
  | none => .ok (left, k)
  | some k₁ =>
    match _h₁ : k₁.conjunction with
    | .error e => .error e
    | .ok (right, k₂) => disjuncts (.or left right) k₂
  termination_by k.rest.length
  decreasing_by
    have := length_rest_of_over? _h
    have := length_rest_of_conjunction _h₁
    omega

/-- Read a disjunction. -/
def disjunction (k : Cursor) : Except QueryFault (Formula × Cursor) :=
  match k.conjunction with
  | .error e => .error e
  | .ok (left, k₁) => k₁.disjuncts left

end Cursor

/-- The formula of a list of pieces. -/
def Formula.ofPieces (pieces : List Piece) : Except QueryFault Formula :=
  match (Cursor.start pieces).disjunction with
  | .error e => .error e
  | .ok (f, ⟨_, []⟩) => .ok f
  | .ok (_, ⟨passed, next :: _⟩) =>
    .error (.missingOperator (passed.head?.elim "" Piece.raw) next.raw)

/-- The formula of a query. A fault of a single piece is reported before any fault of their
order. -/
def QueryReader.read (r : QueryReader) (query : String) : Except QueryFault Formula :=
  match r.pieces query with
  | .error e => .error e
  | .ok pieces => Formula.ofPieces pieces

end Concordance
