import Concordance.Ordered.Set

/-!
# Finite maps in ascending order of keys

A finite map from a linear order, held as its pairs in strictly ascending order of keys. As with
sets, the representation is canonical: maps that find the same values are equal.

One operation, `SortedMap.alter`, changes a map at a key; insertion, removal and merging are
instances of it, and each has one equation that says what is found afterwards.
-/

namespace Concordance

/-- A finite map, held as its pairs in strictly ascending order of keys. -/
structure SortedMap (κ α : Type) [LT κ] where
  /-- The pairs in ascending order of keys. -/
  pairs : List (κ × α)
  /-- The keys ascend strictly. -/
  ascending : pairs.Pairwise fun p q ↦ p.1 < q.1

namespace SortedMap

variable {κ α β : Type} [LT κ]

theorem eq_of_pairs_eq {m n : SortedMap κ α} (h : m.pairs = n.pairs) : m = n := by
  cases m; cases n; cases h; rfl

instance [DecidableEq κ] [DecidableEq α] : DecidableEq (SortedMap κ α) := fun m n ↦
  decidable_of_iff (m.pairs = n.pairs) ⟨eq_of_pairs_eq, fun h ↦ h ▸ rfl⟩

/-- The map without keys. -/
def empty : SortedMap κ α := ⟨[], .nil⟩

instance : EmptyCollection (SortedMap κ α) := ⟨empty⟩

instance : Inhabited (SortedMap κ α) := ⟨empty⟩

@[simp] theorem pairs_empty : (∅ : SortedMap κ α).pairs = [] := rfl

/-- The keys in ascending order. -/
def keys (m : SortedMap κ α) : List κ := m.pairs.map Prod.fst

/-- The number of keys. -/
def size (m : SortedMap κ α) : Nat := m.pairs.length

/-- The pairs whose keys and values satisfy `p`. -/
def filter (p : κ × α → Bool) (m : SortedMap κ α) : SortedMap κ α :=
  ⟨m.pairs.filter p, m.ascending.filter p⟩

theorem ascending_keys (m : SortedMap κ α) : m.keys.Pairwise (· < ·) :=
  List.pairwise_map.2 m.ascending

variable [DecidableEq κ]

/-- The value at a key. -/
def find? (m : SortedMap κ α) (k : κ) : Option α := m.pairs.lookup k

@[simp] theorem find?_empty (k : κ) : (∅ : SortedMap κ α).find? k = none := rfl

variable [DecidableLT κ]

/-- The ascending pairs with the value at `k` replaced by what `f` makes of it. -/
def alterIn (k : κ) (f : Option α → Option α) : List (κ × α) → List (κ × α)
  | [] => (f none).toList.map fun v ↦ (k, v)
  | p :: l =>
    if k < p.1 then ((f none).toList.map fun v ↦ (k, v)) ++ p :: l
    else if k = p.1 then ((f (some p.2)).toList.map fun v ↦ (k, v)) ++ l
    else p :: alterIn k f l

variable [LE κ] [Std.IsLinearOrder κ] [Std.LawfulOrderLT κ]

omit [LE κ] [Std.IsLinearOrder κ] [Std.LawfulOrderLT κ] in
/-- A change at a key brings in no pair with another key. -/
theorem mem_alterIn {k : κ} {f : Option α → Option α} {l : List (κ × α)} {p : κ × α}
    (h : p ∈ alterIn k f l) : p.1 = k ∨ p ∈ l := by
  induction l with
  | nil =>
    obtain ⟨v, -, rfl⟩ := List.mem_map.1 h
    exact .inl rfl
  | cons q l ih =>
    unfold alterIn at h
    split at h
    · rcases List.mem_append.1 h with h | h
      · obtain ⟨v, -, rfl⟩ := List.mem_map.1 h
        exact .inl rfl
      · exact .inr h
    · split at h
      · rcases List.mem_append.1 h with h | h
        · obtain ⟨v, -, rfl⟩ := List.mem_map.1 h
          exact .inl rfl
        · exact .inr (List.mem_cons_of_mem _ h)
      · rcases List.mem_cons.1 h with rfl | h
        · exact .inr List.mem_cons_self
        · exact (ih h).imp_right (List.mem_cons_of_mem _)

omit [LT κ] [DecidableEq κ] [DecidableLT κ] [LE κ] [Std.IsLinearOrder κ]
  [Std.LawfulOrderLT κ] in
private theorem pairwise_toList_append {R : κ × α → κ × α → Prop} {k : κ} {o : Option α}
    {l : List (κ × α)} (hl : l.Pairwise R) (h : ∀ v, ∀ p ∈ l, R (k, v) p) :
    ((o.toList.map fun v ↦ (k, v)) ++ l).Pairwise R := by
  cases o with
  | none => exact hl
  | some v => exact List.pairwise_cons.2 ⟨h v, hl⟩

/-- **A change at a key keeps the order of the keys.** -/
theorem pairwise_alterIn {k : κ} {f : Option α → Option α} {l : List (κ × α)}
    (h : l.Pairwise fun p q ↦ p.1 < q.1) : (alterIn k f l).Pairwise fun p q ↦ p.1 < q.1 := by
  induction l with
  | nil =>
    unfold alterIn
    cases f none <;> simp
  | cons q l ih =>
    have h' := List.pairwise_cons.1 h
    unfold alterIn
    split
    · next hk =>
      refine pairwise_toList_append h fun v p hp ↦ ?_
      rcases List.mem_cons.1 hp with rfl | hp
      · exact hk
      · exact Std.lt_trans hk (h'.1 p hp)
    · next hk =>
      split
      · next hkq =>
        subst hkq
        exact pairwise_toList_append h'.2 fun v p hp ↦ h'.1 p hp
      · next hkq =>
        refine List.pairwise_cons.2 ⟨fun p hp ↦ ?_, ih h'.2⟩
        rcases mem_alterIn hp with hp | hp
        · rcases Std.lt_trichotomy k q.1 with h₁ | h₁ | h₁
          · exact absurd h₁ hk
          · exact absurd h₁ hkq
          · exact hp ▸ h₁
        · exact h'.1 p hp

omit [DecidableLT κ] [Std.IsLinearOrder κ] in
private theorem lookup_eq_none_of_lt {k : κ} {l : List (κ × α)} (h : ∀ p ∈ l, k < p.1) :
    l.lookup k = none := by
  induction l with
  | nil => rfl
  | cons p l ih =>
    have hne : k ≠ p.1 := Std.ne_of_lt (h p List.mem_cons_self)
    rw [List.lookup_cons, beq_false_of_ne hne]
    exact ih fun q hq ↦ h q (List.mem_cons_of_mem _ hq)

omit [LT κ] [DecidableLT κ] [LE κ] [Std.IsLinearOrder κ] [Std.LawfulOrderLT κ] in
private theorem lookup_toList_append {k x : κ} {o : Option α} {l : List (κ × α)}
    (h : l.lookup k = none) :
    ((o.toList.map fun v ↦ (k, v)) ++ l).lookup x = if x = k then o else l.lookup x := by
  cases o with
  | none =>
    split
    · next hx => simp [hx, h]
    · simp
  | some v =>
    split
    · next hx => simp [hx]
    · next hx => simp [List.lookup_cons, beq_false_of_ne hx]

/-- What is found after a change: the changed value at its key, and the old ones elsewhere. -/
theorem lookup_alterIn {k x : κ} {f : Option α → Option α} {l : List (κ × α)}
    (h : l.Pairwise fun p q ↦ p.1 < q.1) :
    (alterIn k f l).lookup x = if x = k then f (l.lookup k) else l.lookup x := by
  induction l with
  | nil =>
    unfold alterIn
    simpa using lookup_toList_append (k := k) (x := x) (o := f none) (l := []) rfl
  | cons p l ih =>
    obtain ⟨q, v⟩ := p
    have h' := List.pairwise_cons.1 h
    unfold alterIn
    split
    · next hk =>
      have hnone : ((q, v) :: l).lookup k = none := lookup_eq_none_of_lt fun p hp ↦ by
        rcases List.mem_cons.1 hp with rfl | hp
        · exact hk
        · exact Std.lt_trans hk (h'.1 p hp)
      rw [lookup_toList_append hnone, hnone]
    · split
      · next hk =>
        subst hk
        rw [lookup_toList_append (lookup_eq_none_of_lt h'.1)]
        by_cases hx : x = k
        · simp [hx]
        · simp [hx, List.lookup_cons, beq_false_of_ne hx]
      · next hk =>
        rw [List.lookup_cons, List.lookup_cons, List.lookup_cons, beq_false_of_ne hk, ih h'.2]
        by_cases hx : x = q
        · have hxk : x ≠ k := fun hxk ↦ hk (hxk ▸ hx)
          simp [hx, hx ▸ hxk]
        · simp [beq_false_of_ne hx]

/-! ### Changing a map at a key -/

/-- The map with the value at `k` replaced by what `f` makes of it. -/
def alter (k : κ) (f : Option α → Option α) (m : SortedMap κ α) : SortedMap κ α :=
  ⟨alterIn k f m.pairs, pairwise_alterIn m.ascending⟩

/-- **What is found after a change**: at the key what was made there, elsewhere what was there. -/
theorem find?_alter (k x : κ) (f : Option α → Option α) (m : SortedMap κ α) :
    (m.alter k f).find? x = if x = k then f (m.find? k) else m.find? x :=
  lookup_alterIn m.ascending

/-- The map with the value `v` at `k`. -/
def insert (k : κ) (v : α) (m : SortedMap κ α) : SortedMap κ α :=
  m.alter k fun _ ↦ some v

/-- The map without the key `k`. -/
def erase (k : κ) (m : SortedMap κ α) : SortedMap κ α :=
  m.alter k fun _ ↦ none

/-- A value that was put in is found at its key. -/
theorem find?_insert (k x : κ) (v : α) (m : SortedMap κ α) :
    (m.insert k v).find? x = if x = k then some v else m.find? x :=
  find?_alter k x _ m

theorem find?_erase (k x : κ) (m : SortedMap κ α) :
    (m.erase k).find? x = if x = k then none else m.find? x :=
  find?_alter k x _ m

/-- The map of a list of pairs; the last of several values at one key counts. -/
def ofList (l : List (κ × α)) : SortedMap κ α :=
  l.foldl (fun m p ↦ m.insert p.1 p.2) ∅

/-- The keys of both maps; where both have a value, `combine` joins them. -/
def mergeWith (combine : α → α → α) (m n : SortedMap κ α) : SortedMap κ α :=
  n.pairs.foldl (fun m p ↦ m.alter p.1 fun o ↦ some (o.elim p.2 (combine · p.2))) m

end SortedMap

end Concordance
