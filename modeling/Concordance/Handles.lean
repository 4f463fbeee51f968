import Concordance.Index.Basic

/-!
# Handles

A handle holds the current index of a collection. Whoever has a handle may take a snapshot of its
index or publish another one in its place; indexes are values, so a snapshot stays what it was, and
nobody ever sees part of a publication.

Handles have names, and one handle may have several. A name that was never used stands for a handle
of its own whose index is empty.
-/

namespace Concordance

/-- Handles and their names. -/
structure Handles where
  /-- The current index of each handle, in the order in which handles were made. -/
  current : List Index
  /-- The position of the handle that each name stands for. -/
  positions : SortedMap String Nat
  /-- Every name stands for a handle. -/
  lt_length : ∀ {name : String} {i : Nat}, positions.find? name = some i → i < current.length
  deriving DecidableEq

namespace Handles

/-- No handles. -/
def empty : Handles := ⟨[], ∅, fun h ↦ by simp at h⟩

instance : EmptyCollection Handles := ⟨empty⟩

/-- The index of the handle with a name. -/
def snapshot (h : Handles) (name : String) : Index :=
  ((h.positions.find? name).bind (h.current[·]?)).getD ∅

/-- Let a name stand for a new handle with the given index. -/
def make (h : Handles) (name : String) (x : Index) : Handles where
  current := h.current ++ [x]
  positions := h.positions.insert name h.current.length
  lt_length hi := by
    rw [SortedMap.find?_insert] at hi
    split at hi
    · cases hi; simp
    · have := h.lt_length hi
      simp only [List.length_append]
      omega

/-- Publish an index through the handle with a name. -/
def publish (h : Handles) (name : String) (x : Index) : Handles :=
  match h.positions.find? name with
  | some i => ⟨h.current.set i x, h.positions, fun hi ↦ by simpa using h.lt_length hi⟩
  | none => h.make name x

/-- The handles once there is a handle with the given name. -/
def ensure (h : Handles) (name : String) : Handles :=
  if (h.positions.find? name).isSome then h else h.make name ∅

/-- Let `other` be another name of the handle with the given name. -/
def share (h : Handles) (name other : String) : Handles :=
  match hi : (h.ensure name).positions.find? name with
  | some i =>
    { h.ensure name with
      positions := (h.ensure name).positions.insert other i
      lt_length := fun hj ↦ by
        rw [SortedMap.find?_insert] at hj
        split at hj
        · cases hj; exact (h.ensure name).lt_length hi
        · exact (h.ensure name).lt_length hj }
  | none => h.ensure name

/-! ### Snapshots -/

/-- A name that has a position shows the index at that position. -/
theorem snapshot_of_position {h : Handles} {name : String} {i : Nat}
    (hi : h.positions.find? name = some i) :
    h.snapshot name = h.current.get ⟨i, h.lt_length hi⟩ := by
  simp [snapshot, hi, h.lt_length hi]

/-- **What is published through a name is what the name shows.** -/
theorem snapshot_publish (h : Handles) (name : String) (x : Index) :
    (h.publish name x).snapshot name = x := by
  unfold publish
  split
  · next i hi =>
    have := h.lt_length hi
    simp [snapshot, hi, this]
  · simp [snapshot, make, SortedMap.find?_insert]

end Handles

end Concordance
