import Mathlib.Logic.Function.Basic
import Concordance.Proofs.Holdings

/-!
# Publications and snapshots

Handles are shared cells with several names, and whoever uses them has indexes of his own, which he
changes as he likes. What a name of a handle shows is nevertheless a matter of the record alone. The
record of a history says which handle each name stands for (`handleOf`) and what was published
through which handle (`Workbench.publications`); a snapshot is the latest entry for its handle, under
whatever name that was published (`Workbench.shows_dealAll`).

Everything rests on one invariant, `Handles.Shows`: two names stand for the same handle exactly if
they have the same position, and each shows the content of its handle. Making, publishing and sharing
each keep it, and nothing else touches handles. Indexes are values, so the other half is a frame: a
dealing writes the one named index that it is about (`Dealing.target?`) and no other.
-/

namespace Concordance

/-- Something that is done with handles and with the indexes of those who use them. -/
inductive Dealing where
  /-- Let a name stand for a new handle, with a copy of a named index to begin with. -/
  | make (handle slot : String)
  /-- Publish a copy of a named index through a handle. -/
  | publish (handle slot : String)
  /-- Take a snapshot of the index of a handle. -/
  | snapshot (handle slot : String)
  /-- Give a handle another name. -/
  | share (handle other : String)
  /-- Copy the second of two named indexes to the first. -/
  | copy (slot other : String)
  /-- Add a document and its terms to a named index. -/
  | add (slot : String) (id : DocId) (terms : List String)
  /-- Record the address of a document in a named index. -/
  | setSource (slot : String) (id : DocId) (url : String)
  /-- Merge another named index into a named index. -/
  | merge (slot other : String)
  deriving DecidableEq

/-- The named index that a dealing writes, if it writes any. -/
def Dealing.target? : Dealing → Option String
  | make _ _ | publish _ _ | share _ _ => none
  | snapshot _ slot | copy slot _ | add slot _ _ | setSource slot _ _ | merge slot _ => some slot

namespace Workbench

/-- The workbench after a dealing. -/
def deal (w : Workbench) : Dealing → Workbench
  | .make handle slot => w.makeHandle handle (w.slot slot)
  | .publish handle slot => w.publish handle (w.slot slot)
  | .snapshot handle slot => w.snapshot handle slot
  | .share handle other => w.share handle other
  | .copy slot other => w.setSlot slot (w.slot other)
  | .add slot id terms => w.add slot id terms
  | .setSource slot id url => w.setSource slot id url
  | .merge slot other => w.merge slot other

/-- The workbench after several dealings, of which the latest comes first. -/
def dealAll (w : Workbench) : List Dealing → Workbench
  | [] => w
  | d :: past => (w.dealAll past).deal d

end Workbench

/-! ### The record -/

/-- A handle, apart from its names. -/
inductive HandleId where
  /-- The handle that a name stands for as long as it is given no other. -/
  | own (name : String)
  /-- The handle that was made after so many dealings. -/
  | made (dealings : Nat)
  deriving DecidableEq

/-- The handle that each name stands for after dealings of which the latest comes first. -/
def handleOf : List Dealing → String → HandleId
  | [] => .own
  | .make handle _ :: past => Function.update (handleOf past) handle (.made past.length)
  | .share handle other :: past => Function.update (handleOf past) other (handleOf past handle)
  | _ :: past => handleOf past

namespace Workbench

/-- What was published through which handle, the latest first. The index that a handle begins with
counts as published. -/
def publications (w : Workbench) : List Dealing → List (HandleId × Index)
  | [] => []
  | .make _ slot :: past => (.made past.length, (w.dealAll past).slot slot) :: w.publications past
  | .publish handle slot :: past =>
    (handleOf past handle, (w.dealAll past).slot slot) :: w.publications past
  | _ :: past => w.publications past

/-- What was published last through a handle; the empty index if nothing was. -/
def published (w : Workbench) (past : List Dealing) (id : HandleId) : Index :=
  ((w.publications past).lookup id).getD ∅

/-- A publication replaces what was published through its handle. -/
theorem published_eq_update {w : Workbench} {past : List Dealing} (earlier : List Dealing)
    {id : HandleId} {x : Index} (h : w.publications past = (id, x) :: w.publications earlier) :
    w.published past = Function.update (w.published earlier) id x := by
  funext i
  rw [published, h, List.lookup_cons]
  rcases eq_or_ne i id with rfl | hi
  · rw [Function.update_self, beq_self_eq_true]
    rfl
  · rw [Function.update_of_ne hi, beq_false_of_ne hi]
    rfl

end Workbench

/-- A handle that is made later is none of those that names stand for now. -/
theorem handleOf_ne_made (past : List Dealing) {n : Nat} (h : past.length ≤ n) (name : String) :
    handleOf past name ≠ .made n := by
  induction past generalizing name with
  | nil => exact HandleId.noConfusion
  | cons d past ih =>
    have hpast := ih (Nat.le_of_succ_le h)
    cases d with
    | make handle slot =>
      rw [handleOf, Function.update_apply]
      split
      · rw [Ne, HandleId.made.injEq]
        exact Nat.ne_of_lt h
      · exact hpast name
    | share handle other =>
      rw [handleOf, Function.update_apply]
      split
      · exact hpast handle
      · exact hpast name
    | publish | snapshot | copy | add | setSource | merge => exact hpast name

/-! ### Handles -/

namespace Handles

variable {h : Handles} {x : Index} {name other a b : String} {f : String → HandleId}
  {c : HandleId → Index} {id : HandleId}

/-- A handle that is made takes the next position, and no other name moves. -/
theorem find?_make (h : Handles) (name : String) (x : Index) (a : String) :
    (h.make name x).positions.find? a =
      if a = name then some h.current.length else h.positions.find? a :=
  SortedMap.find?_insert ..

/-- Making a handle changes what one name shows. -/
theorem snapshot_make (h : Handles) (name : String) (x : Index) (a : String) :
    (h.make name x).snapshot a = if a = name then x else h.snapshot a := by
  rw [snapshot, find?_make]
  split
  · simp [make]
  · rw [snapshot]
    rcases hi : h.positions.find? a with - | i
    · rfl
    · show ((h.current ++ [x])[i]?).getD ∅ = (h.current[i]?).getD ∅
      rw [List.getElem?_append_left (h.lt_length hi)]

theorem isSome_find?_ensure (h : Handles) (name : String) :
    ((h.ensure name).positions.find? name).isSome = true := by
  rw [ensure]
  split
  · assumption
  · rw [find?_make, if_pos rfl, Option.isSome_some]

/-- A handle that a name is given of its own shows what the name has shown. -/
theorem snapshot_ensure (h : Handles) (name a : String) :
    (h.ensure name).snapshot a = h.snapshot a := by
  rw [ensure]
  split
  · rfl
  · next hnone =>
    have hname : h.positions.find? name = none := by simpa using hnone
    rw [snapshot_make]
    split
    · next ha => rw [ha, snapshot, hname]; rfl
    · rfl

theorem find?_share (h : Handles) (name other a : String) :
    (h.share name other).positions.find? a =
      if a = other then (h.ensure name).positions.find? name
      else (h.ensure name).positions.find? a := by
  have hsome := h.isSome_find?_ensure name
  rw [share]
  split
  · next i hi => rw [SortedMap.find?_insert, hi]
  · next hnone =>
    rw [hnone] at hsome
    exact absurd hsome Bool.false_ne_true

/-- A handle shows the same under its new name. -/
theorem snapshot_share (h : Handles) (name other a : String) :
    (h.share name other).snapshot a =
      if a = other then (h.ensure name).snapshot name else (h.ensure name).snapshot a := by
  rw [snapshot, find?_share, current_share]
  split <;> rfl

/-- Names stand for the handles that `f` says, and each shows the content of its handle. -/
structure Shows (h : Handles) (f : String → HandleId) (c : HandleId → Index) : Prop where
  /-- Names stand for the same handle if they are the same or have the same position. -/
  same : ∀ {a b}, f a = f b ↔
    a = b ∨ ∃ i, h.positions.find? a = some i ∧ h.positions.find? b = some i
  /-- What a name shows is the content of its handle. -/
  content : ∀ a, h.snapshot a = c (f a)

namespace Shows

theorem empty : (∅ : Handles).Shows .own fun _ ↦ ∅ := by
  refine ⟨fun {a b} ↦ ?_, fun _ ↦ rfl⟩
  have hnone : ¬ ∃ i, (∅ : Handles).positions.find? a = some i ∧
      (∅ : Handles).positions.find? b = some i := by
    rintro ⟨i, hi, -⟩
    have hempty : (∅ : Handles).positions.find? a = none := SortedMap.find?_empty a
    exact absurd (hempty.symm.trans hi) (by simp)
  rw [HandleId.own.injEq, or_iff_left hnone]

/-- A name without a position shares its handle with no other name. -/
theorem ne_of_find?_eq_none (hf : h.Shows f c) (hname : h.positions.find? name = none)
    (ha : a ≠ name) : f a ≠ f name := by
  intro heq
  rcases hf.same.1 heq with rfl | ⟨i, -, hi⟩
  · exact ha rfl
  · exact absurd (hname.symm.trans hi) (by simp)

/-- **Making a handle keeps the invariant**, if no other name stood for it. -/
theorem make (hf : h.Shows f c) (hid : ∀ a, a ≠ name → f a ≠ id) (x : Index) :
    (h.make name x).Shows (Function.update f name id) (Function.update c id x) := by
  have hname : (h.make name x).positions.find? name = some h.current.length := by
    rw [find?_make, if_pos rfl]
  -- The position of the new handle is beyond those of all other names.
  have hnew {a : String} (ha : a ≠ name) :
      (h.make name x).positions.find? a ≠ (h.make name x).positions.find? name := by
    rw [hname, find?_make, if_neg ha]
    exact fun hi ↦ Nat.lt_irrefl _ (h.lt_length hi)
  have hapart {a : String} (ha : a ≠ name) :
      ¬ ∃ i, (h.make name x).positions.find? a = some i ∧
        (h.make name x).positions.find? name = some i :=
    fun ⟨_, hi, hi'⟩ ↦ hnew ha (hi.trans hi'.symm)
  refine ⟨fun {a b} ↦ ?_, fun a ↦ ?_⟩
  · by_cases ha : a = name
    · by_cases hb : b = name
      · exact iff_of_true (by rw [ha, hb]) (.inl (ha.trans hb.symm))
      · rw [ha, Function.update_self, Function.update_of_ne hb]
        refine iff_of_false (hid b hb).symm ?_
        rintro (heq | ⟨i, hi, hi'⟩)
        · exact hb heq.symm
        · exact hapart hb ⟨i, hi', hi⟩
    · by_cases hb : b = name
      · rw [hb, Function.update_self, Function.update_of_ne ha]
        exact iff_of_false (hid a ha) (not_or.2 ⟨ha, hapart ha⟩)
      · rw [Function.update_of_ne ha, Function.update_of_ne hb, find?_make, find?_make, if_neg ha,
          if_neg hb]
        exact hf.same
  · rw [snapshot_make]
    split
    · next ha => rw [ha, Function.update_self, Function.update_self]
    · next ha => rw [Function.update_of_ne ha, Function.update_of_ne (hid a ha), hf.content]

/-- A name that was never used stands for a handle of its own, so it may be given a position. -/
theorem make_own (hf : h.Shows f c) (hname : h.positions.find? name = none) (x : Index) :
    (h.make name x).Shows f (Function.update c (f name) x) := by
  have hmake := hf.make (fun a ha ↦ hf.ne_of_find?_eq_none hname ha) x
  rwa [Function.update_eq_self] at hmake

theorem ensure (hf : h.Shows f c) (name : String) : (h.ensure name).Shows f c := by
  refine ⟨fun {a b} ↦ ?_, fun a ↦ (h.snapshot_ensure name a).trans (hf.content a)⟩
  rw [Handles.ensure]
  split
  · exact hf.same
  · next hnone => exact (hf.make_own (by simpa using hnone) ∅).same

/-- **Publishing keeps the invariant**: the names of the handle show the new index, and no others
do. -/
theorem publish (hf : h.Shows f c) (name : String) (x : Index) :
    (h.publish name x).Shows f (Function.update c (f name) x) := by
  rw [Handles.publish]
  split
  · next i hi =>
    refine ⟨hf.same, fun a ↦ ?_⟩
    by_cases ha : f a = f name
    · have hpos : h.positions.find? a = some i := by
        rcases hf.same.1 ha with rfl | ⟨j, hj, hj'⟩
        · exact hi
        · rw [hj, ← hj', hi]
      rw [ha, Function.update_self]
      simp [snapshot, hpos, h.lt_length hi]
    · have hpos : h.positions.find? a ≠ some i := fun hpos ↦ ha (hf.same.2 (.inr ⟨i, hpos, hi⟩))
      rw [Function.update_of_ne ha, ← hf.content, snapshot, snapshot]
      rcases hj : h.positions.find? a with - | j
      · rfl
      · show ((h.current.set i x)[j]?).getD ∅ = (h.current[j]?).getD ∅
        rw [List.getElem?_set_ne]
        rintro rfl
        exact hpos hj
  · next hname => exact hf.make_own hname x

/-- **Sharing keeps the invariant**: the other name now stands for the handle of the first. -/
theorem share (hf : h.Shows f c) (name other : String) :
    (h.share name other).Shows (Function.update f other (f name)) c := by
  have he := hf.ensure name
  obtain ⟨i, hi⟩ := Option.isSome_iff_exists.1 (h.isSome_find?_ensure name)
  have hother : (h.share name other).positions.find? other = some i := by
    rw [find?_share, if_pos rfl, hi]
  have helse {a : String} (ha : a ≠ other) :
      (h.share name other).positions.find? a = (h.ensure name).positions.find? a := by
    rw [find?_share, if_neg ha]
  have hnew {a : String} (ha : a ≠ other) :
      f name = f a ↔ ∃ j, (h.share name other).positions.find? other = some j ∧
        (h.share name other).positions.find? a = some j := by
    rw [he.same, hother, helse ha, hi]
    constructor
    · rintro (rfl | hj)
      · exact ⟨i, rfl, hi⟩
      · exact hj
    · exact .inr
  refine ⟨fun {a b} ↦ ?_, fun a ↦ ?_⟩
  · by_cases ha : a = other
    · by_cases hb : b = other
      · exact iff_of_true (by rw [ha, hb]) (.inl (ha.trans hb.symm))
      · rw [ha, Function.update_self, Function.update_of_ne hb, or_iff_right (Ne.symm hb)]
        exact hnew hb
    · by_cases hb : b = other
      · rw [hb, Function.update_self, Function.update_of_ne ha, or_iff_right ha, eq_comm, hnew ha]
        simp only [and_comm]
      · rw [Function.update_of_ne ha, Function.update_of_ne hb, helse ha, helse hb]
        exact he.same
  · rw [snapshot_share]
    split
    · next ha => rw [ha, Function.update_self, he.content]
    · next ha => rw [Function.update_of_ne ha, he.content]

end Shows

end Handles

/-! ### Histories -/

namespace Workbench

variable {w : Workbench} {past : List Dealing} {d : Dealing} {slot handle name : String}

/-- **What a name shows is what was published last through its handle**, under whatever name. -/
theorem shows_dealAll (hw : w.handles = ∅) (past : List Dealing) :
    (w.dealAll past).handles.Shows (handleOf past) (w.published past) := by
  induction past with
  | nil =>
    rw [dealAll, hw]
    exact .empty
  | cons d past ih =>
    cases d with
    | make handle slot =>
      rw [published_eq_update past rfl]
      exact ih.make (fun a _ ↦ handleOf_ne_made past (Nat.le_refl _) a) _
    | publish handle slot =>
      rw [published_eq_update past rfl]
      exact ih.publish handle _
    | snapshot handle slot => exact ih.ensure handle
    | share handle other => exact ih.share handle other
    | copy | add | setSource | merge => exact ih

/-- A dealing writes the named index that it is about, and no other. -/
theorem slot_deal (h : d.target? ≠ some slot) : (w.deal d).slot slot = w.slot slot := by
  have hset {v : Workbench} {target : String} {x : Index} (htarget : some target ≠ some slot) :
      (v.setSlot target x).slot slot = v.slot slot := by
    rw [slot_setSlot, if_neg]
    rintro rfl
    exact htarget rfl
  cases d with
  | make | publish | share => rfl
  | snapshot handle target => exact hset h
  | copy target other => exact hset h
  | add target id terms => exact hset h
  | setSource target id url => exact hset h
  | merge target other => exact hset h

/-- Dealings with other indexes leave an index as it is. -/
theorem slot_dealAll_append {later : List Dealing} (h : ∀ d ∈ later, d.target? ≠ some slot) :
    (w.dealAll (later ++ past)).slot slot = (w.dealAll past).slot slot := by
  induction later with
  | nil => rfl
  | cons d later ih =>
    rw [List.cons_append, dealAll, slot_deal (h d List.mem_cons_self)]
    exact ih fun d' hd' ↦ h d' (List.mem_cons_of_mem d hd')

/-- A dealing that writes a named index leaves what names of handles show as it was. -/
theorem snapshot_deal (h : d.target? = some slot) (name : String) :
    (w.deal d).handles.snapshot name = w.handles.snapshot name := by
  cases d with
  | make | publish | share => exact absurd h (by simp [Dealing.target?])
  | snapshot handle target => exact w.handles.snapshot_ensure handle name
  | copy | add | setSource | merge => rfl

/-- Handles after some dealings, as those who use them can rely on them. -/
structure Isolates (w : Workbench) (past : List Dealing) : Prop where
  /-- A name shows the index that was published last through any name of the same handle, or else the
  index that the handle began with. -/
  current : ∀ name,
    (w.dealAll past).handles.snapshot name = w.published past (handleOf past name)
  /-- A publication shows under all names of the handle, as a whole, and under no others. -/
  published : ∀ handle slot name,
    (w.dealAll (.publish handle slot :: past)).handles.snapshot name =
      if handleOf past name = handleOf past handle then (w.dealAll past).slot slot
      else (w.dealAll past).handles.snapshot name
  /-- A snapshot is the index that was published last through the handle, and stays that whatever is
  done later, as long as whoever took it does not write it himself. -/
  taken : ∀ handle slot, ∀ later : List Dealing, (∀ d ∈ later, d.target? ≠ some slot) →
    (w.dealAll (later ++ .snapshot handle slot :: past)).slot slot =
      w.published past (handleOf past handle)
  /-- Whoever writes an index of his own, published before or taken as a snapshot, changes what no
  name of a handle shows and no other index. -/
  own : ∀ d slot, d.target? = some slot →
    (∀ name, (w.dealAll (d :: past)).handles.snapshot name =
      (w.dealAll past).handles.snapshot name) ∧
      ∀ other, other ≠ slot → (w.dealAll (d :: past)).slot other = (w.dealAll past).slot other

/-- **Handles give snapshots of whole publications, and these stay apart from all that is done
later.** -/
theorem dealings_isolate (hw : w.handles = ∅) (past : List Dealing) : w.Isolates past := by
  have hshows := shows_dealAll hw past
  refine ⟨hshows.content, fun handle slot name ↦ ?_, fun handle slot later hlater ↦ ?_,
    fun d slot hd ↦ ⟨fun name ↦ snapshot_deal hd name, fun other hother ↦ slot_deal ?_⟩⟩
  · rw [dealAll, deal, Workbench.publish, (hshows.publish handle _).content, hshows.content,
      Function.update_apply]
  · rw [slot_dealAll_append hlater, dealAll, deal, Workbench.snapshot, slot_setSlot, if_pos rfl,
      hshows.content]
  · rw [hd, Ne, Option.some.injEq]
    exact hother.symm

/-- A workbench without any handles, files or named indexes. -/
def bare : Workbench := ofVolume ⟨[], ∅⟩

/-- A handle with two names, through the second of which an index is published after a snapshot was
taken through the first. The latest dealing comes first. -/
def exchange : List Dealing :=
  [.publish "twin" "mine", .add "mine" 2 ["пёс"], .snapshot "main" "early", .share "main" "twin",
    .make "main" "mine", .add "mine" 1 ["кот"]]

/-- Later dealings, that write the published index again, and publish it through another handle. -/
def aftermath : List Dealing :=
  [.publish "third" "mine", .merge "mine" "early", .share "third" "twin", .add "mine" 3 []]

/-- The publication shows under the first name too, and goes on to do so. The snapshot that was taken
before it still is the index that the handle began with. -/
theorem dealings_isolate_of_exchange :
    bare.handles = ∅ ∧
      ((bare.dealAll exchange).handles.snapshot "main").documents.toList = [1, 2] ∧
      ((bare.dealAll (aftermath ++ exchange)).handles.snapshot "main").documents.toList = [1, 2] ∧
      ((bare.dealAll (aftermath ++ exchange)).handles.snapshot "twin").documents.toList =
        [1, 2, 3] ∧
      ((bare.dealAll ((aftermath ++ exchange.take 2) ++
        .snapshot "main" "early" :: exchange.drop 3)).slot "early").documents.toList = [1] := by
  have hisolates := dealings_isolate (w := bare) rfl
  refine ⟨rfl, ?_, ?_, ?_, ?_⟩
  · rw [(hisolates exchange).current]
    decide +kernel
  · rw [(hisolates (aftermath ++ exchange)).current]
    decide +kernel
  · rw [(hisolates (aftermath ++ exchange)).current]
    decide +kernel
  · rw [(hisolates (exchange.drop 3)).taken "main" "early" (aftermath ++ exchange.take 2)
      (by decide +kernel)]
    decide +kernel

end Workbench

end Concordance
