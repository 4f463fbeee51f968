/-!
# Finite sets in ascending order

A finite set of a linear order, held as the strictly ascending list of its members. The
representation is canonical, so equality of sets is equality of lists, and listing a set needs no
sorting. Operations are characterised by membership; with `SortedSet.ext` nothing else is needed.
-/

namespace Concordance

/-- A finite set, held as the strictly ascending list of its members. -/
structure SortedSet (κ : Type) [LT κ] where
  /-- The members in ascending order. -/
  toList : List κ
  /-- The members ascend strictly. -/
  ascending : toList.Pairwise (· < ·)

namespace SortedSet

/-! ### Ascending lists -/

section Ascending

variable {κ : Type} [LT κ] [DecidableLT κ]

/-- The ascending list with one more member, in its place. -/
def insertInto (a : κ) : List κ → List κ
  | [] => [a]
  | b :: l => if a < b then a :: b :: l else if b < a then b :: insertInto a l else b :: l

variable [LE κ] [Std.IsLinearOrder κ] [Std.LawfulOrderLT κ]

theorem mem_insertInto {a x : κ} {l : List κ} : x ∈ insertInto a l ↔ x = a ∨ x ∈ l := by
  induction l with
  | nil => simp [insertInto]
  | cons b l ih =>
    unfold insertInto
    split
    · simp
    · next hab =>
      split
      · simp only [List.mem_cons, ih]
        exact or_left_comm
      · next hba =>
        rcases Std.lt_trichotomy a b with h | rfl | h
        · exact absurd h hab
        · simp
        · exact absurd h hba

/-- **Inserting keeps a list ascending**, also when the member was there already. -/
theorem pairwise_insertInto {a : κ} {l : List κ} (h : l.Pairwise (· < ·)) :
    (insertInto a l).Pairwise (· < ·) := by
  induction l with
  | nil => simp [insertInto]
  | cons b l ih =>
    rw [List.pairwise_cons] at h
    unfold insertInto
    split
    · next hab =>
      refine List.pairwise_cons.2 ⟨fun x hx ↦ ?_, List.pairwise_cons.2 h⟩
      rcases List.mem_cons.1 hx with rfl | hx
      · exact hab
      · exact Std.lt_trans hab (h.1 x hx)
    · split
      · next hba =>
        refine List.pairwise_cons.2 ⟨fun x hx ↦ ?_, ih h.2⟩
        rcases mem_insertInto.1 hx with rfl | hx
        · exact hba
        · exact h.1 x hx
      · exact List.pairwise_cons.2 h

omit [DecidableLT κ] in
/-- **An ascending list is determined by its members.** -/
theorem eq_of_mem_iff {l m : List κ} (hl : l.Pairwise (· < ·)) (hm : m.Pairwise (· < ·))
    (h : ∀ x, x ∈ l ↔ x ∈ m) : l = m := by
  induction l generalizing m with
  | nil =>
    cases m with
    | nil => rfl
    | cons b m => exact absurd ((h b).2 List.mem_cons_self) List.not_mem_nil
  | cons a l ih =>
    cases m with
    | nil => exact absurd ((h a).1 List.mem_cons_self) List.not_mem_nil
    | cons b m =>
      rw [List.pairwise_cons] at hl hm
      have hab : a = b := by
        rcases List.mem_cons.1 ((h a).1 List.mem_cons_self) with hab | ha
        · exact hab
        · rcases List.mem_cons.1 ((h b).2 List.mem_cons_self) with hba | hb
          · exact hba.symm
          · exact absurd (Std.lt_trans (hl.1 b hb) (hm.1 a ha)) Std.lt_irrefl
      subst hab
      congr 1
      refine ih hl.2 hm.2 fun x ↦ ⟨fun hx ↦ ?_, fun hx ↦ ?_⟩
      · rcases List.mem_cons.1 ((h x).1 (List.mem_cons_of_mem _ hx)) with rfl | hx'
        · exact absurd (hl.1 x hx) Std.lt_irrefl
        · exact hx'
      · rcases List.mem_cons.1 ((h x).2 (List.mem_cons_of_mem _ hx)) with rfl | hx'
        · exact absurd (hm.1 x hx) Std.lt_irrefl
        · exact hx'

end Ascending

/-! ### Sets -/

variable {κ : Type} [LT κ]

instance : Membership κ (SortedSet κ) := ⟨fun s a ↦ a ∈ s.toList⟩

theorem mem_def {a : κ} {s : SortedSet κ} : a ∈ s ↔ a ∈ s.toList := Iff.rfl

@[simp] theorem mem_toList {a : κ} {s : SortedSet κ} : a ∈ s.toList ↔ a ∈ s := Iff.rfl

instance [DecidableEq κ] (a : κ) (s : SortedSet κ) : Decidable (a ∈ s) :=
  inferInstanceAs (Decidable (a ∈ s.toList))

theorem eq_of_toList_eq {s t : SortedSet κ} (h : s.toList = t.toList) : s = t := by
  cases s; cases t; cases h; rfl

instance [DecidableEq κ] : DecidableEq (SortedSet κ) := fun s t ↦
  decidable_of_iff (s.toList = t.toList) ⟨eq_of_toList_eq, fun h ↦ h ▸ rfl⟩

/-- The set without members. -/
def empty : SortedSet κ := ⟨[], .nil⟩

instance : EmptyCollection (SortedSet κ) := ⟨empty⟩

instance : Inhabited (SortedSet κ) := ⟨empty⟩

@[simp] theorem toList_empty : (∅ : SortedSet κ).toList = [] := rfl

@[simp] theorem not_mem_empty (a : κ) : a ∉ (∅ : SortedSet κ) := List.not_mem_nil

/-- The number of members. -/
def size (s : SortedSet κ) : Nat := s.toList.length

/-- Has the set no members? -/
def isEmpty (s : SortedSet κ) : Bool := s.toList.isEmpty

/-- The members that satisfy `p`. -/
def filter (p : κ → Bool) (s : SortedSet κ) : SortedSet κ :=
  ⟨s.toList.filter p, s.ascending.filter p⟩

@[simp] theorem mem_filter {p : κ → Bool} {s : SortedSet κ} {a : κ} :
    a ∈ s.filter p ↔ a ∈ s ∧ p a = true :=
  List.mem_filter

variable [DecidableEq κ]

/-- The common members of two sets. -/
def inter (s t : SortedSet κ) : SortedSet κ := s.filter fun a ↦ a ∈ t

/-- The members of the first set that are not in the second. -/
def diff (s t : SortedSet κ) : SortedSet κ := s.filter fun a ↦ !decide (a ∈ t)

/-- Is every member of the first set in the second? -/
def isSubset (s t : SortedSet κ) : Bool := s.toList.all fun a ↦ a ∈ t

@[simp] theorem mem_inter {s t : SortedSet κ} {a : κ} : a ∈ s.inter t ↔ a ∈ s ∧ a ∈ t := by
  simp [inter]

@[simp] theorem mem_diff {s t : SortedSet κ} {a : κ} : a ∈ s.diff t ↔ a ∈ s ∧ a ∉ t := by
  simp [diff]

/-- One set is part of another if all its members are. -/
theorem isSubset_eq_true_iff {s t : SortedSet κ} :
    s.isSubset t = true ↔ ∀ a, a ∈ s → a ∈ t := by
  simp [isSubset]

variable [DecidableLT κ] [LE κ] [Std.IsLinearOrder κ] [Std.LawfulOrderLT κ]

omit [DecidableEq κ] [DecidableLT κ] in
/-- **Sets with the same members are equal.** -/
theorem ext {s t : SortedSet κ} (h : ∀ a, a ∈ s ↔ a ∈ t) : s = t :=
  eq_of_toList_eq (eq_of_mem_iff s.ascending t.ascending h)

/-- The set with one more member. -/
def insert (a : κ) (s : SortedSet κ) : SortedSet κ :=
  ⟨insertInto a s.toList, pairwise_insertInto s.ascending⟩

/-- The set of the members of a list. -/
def ofList (l : List κ) : SortedSet κ := l.foldr insert ∅

/-- The members of at least one of two sets. -/
def union (s t : SortedSet κ) : SortedSet κ := t.toList.foldr insert s

omit [DecidableEq κ] in
@[simp] theorem mem_insert {a x : κ} {s : SortedSet κ} : x ∈ s.insert a ↔ x = a ∨ x ∈ s :=
  mem_insertInto

omit [DecidableEq κ] in
theorem mem_foldr_insert {x : κ} {s : SortedSet κ} {l : List κ} :
    x ∈ l.foldr insert s ↔ x ∈ s ∨ x ∈ l := by
  induction l with
  | nil => simp
  | cons a l ih => simp [ih, or_left_comm]

omit [DecidableEq κ] in
@[simp] theorem mem_ofList {x : κ} {l : List κ} : x ∈ ofList l ↔ x ∈ l := by
  simp [ofList, mem_foldr_insert]

omit [DecidableEq κ] in
@[simp] theorem mem_union {x : κ} {s t : SortedSet κ} : x ∈ s.union t ↔ x ∈ s ∨ x ∈ t := by
  simp [union, mem_foldr_insert]

end SortedSet

end Concordance
