import Concordance.Ordered.Map

/-!
# Laws of ordered containers

A sorted map is determined by what is found in it (`SortedMap.ext`), just as a sorted set is
determined by its members. With one equation for each way of building a map, every identity between
maps becomes an identity between optional values at a key, and the order in which a map was built
disappears.

`find?_mergeWith` is the equation that the laws of merging rest on: it does not mention the order of
the keys, so merging is associative and commutative as far as joining values is (`mergeWith_assoc`,
`mergeWith_comm`), and changing the second map commutes with merging.
-/

namespace Concordance

namespace SortedSet

variable {κ : Type} [LT κ] [DecidableEq κ] [DecidableLT κ] [LE κ] [Std.IsLinearOrder κ]
  [Std.LawfulOrderLT κ]

omit [DecidableEq κ] in
/-- A set is the set of its own listing. -/
@[simp] theorem ofList_toList (s : SortedSet κ) : ofList s.toList = s :=
  ext fun a ↦ by simp

omit [DecidableEq κ] in
theorem union_empty (s : SortedSet κ) : s.union ∅ = s :=
  ext fun a ↦ by simp

omit [DecidableEq κ] in
theorem union_comm (s t : SortedSet κ) : s.union t = t.union s :=
  ext fun a ↦ by simp [or_comm]

omit [DecidableEq κ] in
theorem union_assoc (s t u : SortedSet κ) : (s.union t).union u = s.union (t.union u) :=
  ext fun a ↦ by simp [or_assoc]

omit [DecidableEq κ] in
/-- A member can be inserted into the union or into its second part. -/
theorem union_insert (s t : SortedSet κ) (a : κ) : s.union (t.insert a) = (s.union t).insert a :=
  ext fun x ↦ by simp [or_left_comm]

omit [DecidableEq κ] in
/-- In which order members were put in does not show. -/
theorem insert_comm (s : SortedSet κ) (a b : κ) : (s.insert a).insert b = (s.insert b).insert a :=
  ext fun x ↦ by simp [or_left_comm]

/-- A set and the rest of a larger one make up the larger one. -/
theorem union_diff_of_forall {s t : SortedSet κ} (h : ∀ a ∈ s, a ∈ t) : s.union (t.diff s) = t := by
  refine ext fun a ↦ ?_
  rw [mem_union, mem_diff]
  by_cases ha : a ∈ s
  · simp [ha, h a ha]
  · simp [ha]

omit [DecidableLT κ] in
/-- A set and the rest of another one have no common member. -/
theorem inter_diff_self (s t : SortedSet κ) : s.inter (t.diff s) = ∅ := by
  refine ext fun a ↦ ⟨fun ha ↦ ?_, fun ha ↦ absurd ha (not_mem_empty a)⟩
  rw [mem_inter, mem_diff] at ha
  exact absurd ha.1 ha.2.2

omit [DecidableEq κ] in
/-- **Two sets without a common member are united by merging their listings.** -/
theorem toList_union_of_disjoint [DecidableLE κ] {s t : SortedSet κ} (h : ∀ a ∈ s, a ∉ t) :
    (s.union t).toList = s.toList.merge t.toList := by
  have hle {s : SortedSet κ} : s.toList.Pairwise fun a b ↦ decide (a ≤ b) = true :=
    s.ascending.imp fun hab ↦ decide_eq_true (Std.le_of_lt hab)
  have hsorted : (s.toList.merge t.toList).Pairwise fun a b ↦ decide (a ≤ b) = true :=
    List.pairwise_merge (by simpa using fun a b c ↦ Std.le_trans)
      (by simpa using fun a b ↦ Std.le_total) _ _ hle hle
  have hnodup : (s.toList.merge t.toList).Nodup := by
    rw [(List.merge_perm_append _).nodup_iff, List.nodup_append]
    refine ⟨s.ascending.imp Std.ne_of_lt, t.ascending.imp Std.ne_of_lt, fun a ha b hb hab ↦ ?_⟩
    exact h a ha (hab ▸ hb)
  refine eq_of_mem_iff (s.union t).ascending ?_ fun a ↦ by simp [List.mem_merge]
  refine hsorted.imp₂ (fun a b hab hne ↦ ?_) hnodup
  exact Std.lt_of_le_of_ne (of_decide_eq_true hab) hne

end SortedSet

namespace SortedMap

variable {κ α : Type} [LT κ] [DecidableEq κ]

section Lookup

variable [LE κ] [Std.LawfulOrderLT κ]

/-- Among pairs with ascending keys, finding a value is being listed. -/
theorem lookup_eq_some_iff_mem {l : List (κ × α)} (h : l.Pairwise fun p q ↦ p.1 < q.1) {k : κ}
    {v : α} : l.lookup k = some v ↔ (k, v) ∈ l := by
  induction l with
  | nil => simp
  | cons p l ih =>
    obtain ⟨j, w⟩ := p
    rw [List.pairwise_cons] at h
    rw [List.lookup_cons, List.mem_cons, Prod.mk.injEq]
    by_cases hk : k = j
    · subst hk
      have hnot : (k, v) ∉ l := fun hv ↦ absurd (h.1 (k, v) hv) Std.lt_irrefl
      simp [hnot, eq_comm]
    · simp [beq_false_of_ne hk, hk, ih h.2]

/-- The first key of an ascending list is not among the others. -/
theorem lookup_tail_eq_none {p : κ × α} {l : List (κ × α)}
    (h : (p :: l).Pairwise fun p q ↦ p.1 < q.1) : l.lookup p.1 = none := by
  rw [List.pairwise_cons] at h
  refine Option.eq_none_iff_forall_ne_some.2 fun v hv ↦ ?_
  exact absurd (h.1 _ ((lookup_eq_some_iff_mem h.2).1 hv)) Std.lt_irrefl

/-- The pairs of a map are what is found in it. -/
theorem mem_pairs_iff {m : SortedMap κ α} {k : κ} {v : α} :
    (k, v) ∈ m.pairs ↔ m.find? k = some v :=
  (lookup_eq_some_iff_mem m.ascending).symm

theorem mem_keys_iff {m : SortedMap κ α} {k : κ} : k ∈ m.keys ↔ (m.find? k).isSome = true := by
  rw [keys, List.mem_map, Option.isSome_iff_exists]
  constructor
  · rintro ⟨⟨_, v⟩, hp, rfl⟩
    exact ⟨v, mem_pairs_iff.1 hp⟩
  · rintro ⟨v, hv⟩
    exact ⟨(k, v), mem_pairs_iff.2 hv, rfl⟩

/-- **Maps in which the same is found are equal.** -/
theorem ext [Std.IsLinearOrder κ] {m n : SortedMap κ α} (h : ∀ k, m.find? k = n.find? k) :
    m = n := by
  have hmem : ∀ p, p ∈ m.pairs ↔ p ∈ n.pairs := fun ⟨k, v⟩ ↦ by
    rw [mem_pairs_iff, mem_pairs_iff, h k]
  have hnodup : ∀ m : SortedMap κ α, m.pairs.Nodup := fun m ↦ by
    refine m.ascending.imp fun {a b} hlt heq ↦ ?_
    subst heq
    exact absurd hlt Std.lt_irrefl
  refine eq_of_pairs_eq (List.Perm.eq_of_pairwise (fun a b _ _ hab hba ↦ ?_)
    m.ascending n.ascending ((List.perm_ext_iff_of_nodup (hnodup m) (hnodup n)).2 fun p ↦ hmem p))
  exact absurd (Std.lt_trans hab hba) Std.lt_irrefl

end Lookup

variable [DecidableLT κ] [LE κ] [Std.IsLinearOrder κ] [Std.LawfulOrderLT κ]

/-! ### Maps of lists of pairs -/

/-- Of pairs with different keys, each is found at its key. -/
theorem find?_foldl_insert {l : List (κ × α)} (h : l.Pairwise fun p q ↦ p.1 < q.1)
    (m : SortedMap κ α) (k : κ) :
    (l.foldl (fun m p ↦ m.insert p.1 p.2) m).find? k = (l.lookup k).or (m.find? k) := by
  induction l generalizing m with
  | nil => rfl
  | cons p l ih =>
    obtain ⟨j, w⟩ := p
    rw [List.foldl_cons, ih h.of_cons, find?_insert, List.lookup_cons]
    by_cases hk : k = j
    · subst hk
      have hnone : l.lookup k = none := lookup_tail_eq_none h
      simp [hnone]
    · simp [hk, beq_false_of_ne hk]

/-- **What is found in the map of a list of pairs**: the last value that the list has at the key. -/
theorem find?_ofList (l : List (κ × α)) (k : κ) : (ofList l).find? k = l.reverse.lookup k := by
  have hfoldl (m : SortedMap κ α) : (l.foldl (fun m p ↦ m.insert p.1 p.2) m).find? k =
      (l.reverse.lookup k).or (m.find? k) := by
    induction l generalizing m with
    | nil => rfl
    | cons p l ih =>
      obtain ⟨j, w⟩ := p
      rw [List.foldl_cons, ih, find?_insert, List.reverse_cons, List.lookup_append, Option.or_assoc]
      by_cases hk : k = j
      · simp [hk]
      · simp [hk, List.lookup_cons, beq_false_of_ne hk]
  rw [ofList, hfoldl, find?_empty, Option.or_none]

/-- A map is the map of its own pairs. -/
@[simp] theorem ofList_pairs (m : SortedMap κ α) : ofList m.pairs = m := by
  refine ext fun k ↦ ?_
  rw [ofList, find?_foldl_insert m.ascending, find?_empty, Option.or_none]
  rfl

/-! ### Merging -/

/-- What two optional values merge to. -/
def mergeValues (combine : α → α → α) : Option α → Option α → Option α
  | o, none => o
  | none, some b => some b
  | some a, some b => some (combine a b)

@[simp] theorem mergeValues_none_right (combine : α → α → α) (o : Option α) :
    mergeValues combine o none = o := by
  cases o <;> rfl

@[simp] theorem mergeValues_none_left (combine : α → α → α) (o : Option α) :
    mergeValues combine none o = o := by
  cases o <;> rfl

@[simp] theorem mergeValues_some (combine : α → α → α) (a b : α) :
    mergeValues combine (some a) (some b) = some (combine a b) := rfl

/-- Where a value is missing nothing is joined, and elsewhere the assumption applies. -/
theorem mergeValues_assoc {combine : α → α → α}
    (h : ∀ a b c, combine (combine a b) c = combine a (combine b c)) (o p q : Option α) :
    mergeValues combine (mergeValues combine o p) q =
      mergeValues combine o (mergeValues combine p q) := by
  cases o <;> cases p <;> cases q <;> simp [h]

theorem mergeValues_comm {combine : α → α → α} (h : ∀ a b, combine a b = combine b a)
    (o p : Option α) : mergeValues combine o p = mergeValues combine p o := by
  cases o <;> cases p <;> simp [h]

/-- The pairs of an ascending list meet one key once at most, so that each value is joined once. -/
private theorem find?_foldl_alter (combine : α → α → α) {l : List (κ × α)}
    (h : l.Pairwise fun p q ↦ p.1 < q.1) (m : SortedMap κ α) (k : κ) :
    (l.foldl (fun m p ↦ m.alter p.1 fun o ↦ some (o.elim p.2 (combine · p.2))) m).find? k =
      mergeValues combine (m.find? k) (l.lookup k) := by
  induction l generalizing m with
  | nil => simp
  | cons p l ih =>
    obtain ⟨j, w⟩ := p
    rw [List.foldl_cons, ih h.of_cons, find?_alter, List.lookup_cons]
    by_cases hk : k = j
    · subst hk
      -- the keys ascend, so the rest of the list leaves the value at `k` alone
      have hnone : l.lookup k = none := lookup_tail_eq_none h
      rw [hnone]
      cases m.find? k <;> simp
    · simp [hk, beq_false_of_ne hk]

/-- **What is found in a merged map.** -/
theorem find?_mergeWith (combine : α → α → α) (m n : SortedMap κ α) (k : κ) :
    (m.mergeWith combine n).find? k = mergeValues combine (m.find? k) (n.find? k) :=
  find?_foldl_alter combine n.ascending m k

/-- An empty map adds nothing, on this side or on the other. -/
theorem mergeWith_empty (combine : α → α → α) (m : SortedMap κ α) :
    m.mergeWith combine ∅ = m :=
  ext fun k ↦ by simp [find?_mergeWith]

theorem empty_mergeWith (combine : α → α → α) (m : SortedMap κ α) :
    (∅ : SortedMap κ α).mergeWith combine m = m :=
  ext fun k ↦ by simp [find?_mergeWith]

/-- **Merging is associative if joining values is.** -/
theorem mergeWith_assoc {combine : α → α → α}
    (h : ∀ a b c, combine (combine a b) c = combine a (combine b c)) (l m n : SortedMap κ α) :
    (l.mergeWith combine m).mergeWith combine n = l.mergeWith combine (m.mergeWith combine n) :=
  ext fun k ↦ by simp only [find?_mergeWith, mergeValues_assoc h]

/-- **Merging is commutative if joining values is.** -/
theorem mergeWith_comm {combine : α → α → α} (h : ∀ a b, combine a b = combine b a)
    (m n : SortedMap κ α) : m.mergeWith combine n = n.mergeWith combine m :=
  ext fun k ↦ by rw [find?_mergeWith, find?_mergeWith, mergeValues_comm h]

/-- Where the second of two values counts, that of the second map is found first. -/
theorem find?_mergeWith_second (m n : SortedMap κ α) (k : κ) :
    (m.mergeWith (fun _ b ↦ b) n).find? k = (n.find? k).or (m.find? k) := by
  rw [find?_mergeWith]
  cases n.find? k <;> cases m.find? k <;> rfl

/-- Changing the second map of a merger changes the merged map, as long as the change at the key
goes through `combine`. -/
theorem mergeWith_alter {combine : α → α → α} {f : Option α → Option α}
    (h : ∀ a o, mergeValues combine a (f o) = f (mergeValues combine a o))
    (m n : SortedMap κ α) (k : κ) :
    m.mergeWith combine (n.alter k f) = (m.mergeWith combine n).alter k f := by
  refine ext fun x ↦ ?_
  rw [find?_mergeWith, find?_alter, find?_alter, find?_mergeWith, find?_mergeWith]
  split
  · next hx =>
    subst hx
    exact h _ _
  · rfl

/-- Changes at different keys commute, and so do changes at one key whose functions commute. -/
theorem alter_comm {f g : Option α → Option α} {j k : κ} (h : j = k → ∀ o, f (g o) = g (f o))
    (m : SortedMap κ α) : (m.alter k g).alter j f = (m.alter j f).alter k g := by
  refine ext fun x ↦ ?_
  simp only [find?_alter]
  by_cases hj : x = j
  · subst hj
    by_cases hk : x = k
    · subst hk
      simpa using h rfl (m.find? x)
    · simp [hk]
  · by_cases hk : x = k
    · subst hk
      simp [hj]
    · simp [hj, hk]

end SortedMap

end Concordance
