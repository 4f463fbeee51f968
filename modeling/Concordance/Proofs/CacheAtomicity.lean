import Mathlib.Data.List.Basic
import Concordance.Proofs.CacheStorage

/-!
# Saving is all or nothing

Whichever step of a save fails, the path leads to what it led to before, and nothing has changed but
the sibling and directories that were missing above the path (`Undone`). A save that succeeds leaves
the whole document and no sibling (`Done`).

There is one exception to the first half. The directories above a path are named by the path alone,
and where two dots follow a name that is missing, that name is one of them; so making them can turn
a path that led nowhere into one that leads somewhere, even to one of these directories
(`failed_save_makes_path`). No path that led somewhere before is affected.
-/

namespace Concordance

namespace Volume

/-- A directory above the path was missing and was made. -/
def MadeHolder (v : Volume) (p : Path) (w : Volume) : Prop :=
  ∃ h ∈ p.holders, v.node? (h.place v.here) = none ∧ w.node? (h.place v.here) = some .directory

/-- What is left of a save that failed. -/
structure Undone (v : Volume) (p : Path) (w : Volume) : Prop where
  /-- What the path led to, a file with its content or a directory, it still leads to. -/
  kept : ∀ n, v.nodeAt p = .ok n → w.nodeAt p = .ok n
  /-- The path leads nowhere if it led nowhere, unless a directory above it was made. -/
  nothing : ∀ n, w.nodeAt p = .ok n → v.nodeAt p = .ok n ∨ v.MadeHolder p w
  /-- Nothing changed but the sibling and directories above the path that were missing. -/
  elsewhere : ∀ q, w.node? q ≠ v.node? q →
    q = p.sibling.place v.here ∨
      p.IsHolder v.here q ∧ v.node? q = none ∧ w.node? q = some .directory
  /-- Relative paths start from the same directory. -/
  here : w.here = v.here

/-- What is left of a save that succeeded. -/
structure Done (v : Volume) (p : Path) (content : Octets) (w : Volume) : Prop where
  /-- The path is that of a file with the whole content. -/
  content : w.nodeAt p = .ok (.file content)
  /-- There is no sibling. -/
  sibling : w.nodeAt p.sibling = .error .notFound
  /-- Every other file has its old content. -/
  files : ∀ q, q ≠ p.place v.here → q ≠ p.sibling.place v.here →
    ∀ old, v.node? q = some (.file old) ↔ w.node? q = some (.file old)
  /-- Nothing changed but the file, its sibling and directories above it that were missing. -/
  elsewhere : ∀ q, w.node? q ≠ v.node? q →
    q = p.place v.here ∨ q = p.sibling.place v.here ∨
      p.IsHolder v.here q ∧ v.node? q = none ∧ w.node? q = some .directory
  /-- Relative paths start from the same directory. -/
  here : w.here = v.here

variable {v w : Volume} {p : Path} {content : Octets} {m : Option Mishap} {e : FileFault}

/-! ### What a path leads to -/

/-- A path leads to the same node on a volume that agrees with the first where the path leads. -/
theorem nodeAt_of_nodeAt (hloc : ∀ t, v.locate p = .ok t → w.locate p = .ok t)
    (hnode : ∀ parent name slash, v.locate p = .ok (.entry parent name slash) →
      ∀ n, v.node? (parent ++ [name]) = some n → w.node? (parent ++ [name]) = some n) {n : Node}
    (h : v.nodeAt p = .ok n) : w.nodeAt p = .ok n := by
  rw [nodeAt] at h ⊢
  cases ht : v.locate p with
  | error e => rw [ht] at h; exact absurd h (by simp)
  | ok t =>
    rw [ht] at h
    rw [hloc t ht]
    cases t with
    | directory place => exact h
    | entry parent name slash =>
      simp only at h ⊢
      cases hn : v.node? (parent ++ [name]) with
      | none => rw [hn] at h; exact absurd h (by simp)
      | some n' =>
        rw [hn] at h
        rw [hnode parent name slash ht n' hn]
        exact h

/-- A path that leads to a name does not name the place of its sibling. -/
theorem ne_place_sibling_of_locate {parent : Place} {name : String} {slash : Bool}
    (h : v.locate p = .ok (.entry parent name slash)) :
    parent ++ [name] ≠ p.sibling.place v.here := by
  rw [← place_of_locate h]
  exact (Path.place_sibling_ne (eq_target_of_locate h).symm).symm

/-! ### Saves that fail -/

/-- A replacement that failed leaves no directories but those that were there and those that it made
above the file. -/
theorem directory_of_replaceFile_error (h : v.replaceFile p content m = (w, some e)) {q : Place}
    (hq : w.node? q = some .directory) :
    v.node? q = some .directory ∨ p.IsHolder v.here q ∧ v.node? q = none := by
  have hholder {q : Place} (hq : (v.makeHolder p m).1.node? q = some .directory) :
      v.node? q = some .directory ∨ p.IsHolder v.here q ∧ v.node? q = none := by
    rcases (grown_makeHolder v p m).elsewhere q with hsame | ⟨hmade, hnone, -⟩ | hwritten
    · exact .inl (hsame.symm.trans hq)
    · exact .inr ⟨hmade, hnone⟩
    · exact hwritten.elim
  rcases of_replaceFile_error h with rfl | ⟨part, hpart⟩
  · exact hholder hq
  · -- The sibling was written as a file.
    obtain ⟨parent, name, -, -, rfl⟩ := writeFile_eq_ok_iff.1 hpart
    rw [node?_put _ (by simp)] at hq
    split at hq
    · exact absurd hq (by simp)
    · exact hholder hq

/-- **A replacement that fails leaves at the path what was there.** -/
theorem undone_of_replaceFile (h : v.replaceFile p content m = (w, some e)) : v.Undone p w := by
  have hgrown := grown_of_replaceFile_error h
  refine ⟨fun n hn ↦ ?_, fun n hn ↦ ?_, fun q hq ↦ ?_, hgrown.here⟩
  · refine nodeAt_of_nodeAt (fun t ht ↦ hgrown.locate ht) (fun parent name slash ht n' hn' ↦ ?_) hn
    rcases hgrown.elsewhere (parent ++ [name]) with hsame | ⟨-, hnone, -⟩ | hsibling
    · rw [hsame, hn']
    · rw [hn'] at hnone
      exact absurd hnone (by simp)
    · exact absurd hsibling (ne_place_sibling_of_locate ht)
  · -- If nothing was made above the path, it is followed back to the volume as it was.
    rw [or_iff_not_imp_right]
    intro hmade
    have hold {q : Place} (hholder : p.IsHolder v.here q) (hnone : v.node? q = none) :
        w.node? q ≠ some .directory := by
      obtain ⟨a, ha, rfl⟩ := hholder
      exact fun hdir ↦ hmade ⟨a, ha, hnone, hdir⟩
    have hdir (q : Place) (hq : w.node? q = some .directory) : v.node? q = some .directory := by
      rcases directory_of_replaceFile_error h hq with hv | ⟨hholder, hnone⟩
      · exact hv
      · exact absurd hq (hold hholder hnone)
    refine nodeAt_of_nodeAt (fun t ht ↦ locate_mono hgrown.here.symm hdir ht)
      (fun parent name slash ht n' hn' ↦ ?_) hn
    have hne := ne_place_sibling_of_locate ht
    rw [hgrown.here] at hne
    rcases hgrown.elsewhere (parent ++ [name]) with hsame | ⟨hholder, hnone, hw⟩ | hsibling
    · rw [← hsame, hn']
    · exact absurd hw (hold hholder hnone)
    · exact absurd hsibling hne
  · rcases hgrown.elsewhere q with hsame | hmade | hsibling
    · exact absurd hsame hq
    · exact .inr hmade
    · exact .inl hsibling

/-! ### Saves that succeed -/

/-- After a replacement that succeeded the path of the sibling leads to nothing. -/
theorem nodeAt_sibling_of_replaceFile (h : v.replaceFile p content m = (w, none)) :
    w.nodeAt p.sibling = .error .notFound := by
  have hnone := node?_sibling_of_replaceFile h
  obtain ⟨u, d, n, parent, name, hu, hloc, -, hfile, hdir, rfl⟩ := exists_stage_of_replaceFile h
  have hgrown : u.Grown (p.IsHolder v.here) (fun q ↦ q = d ++ [n] ∨ q = parent ++ [name])
      ((u.clear (d ++ [n])).put (parent ++ [name]) (.file content)) :=
    grown_clear_put (by simp) (by simp) hfile hdir
  rw [← hu.here, place_of_locate hloc] at hnone
  rw [nodeAt, hgrown.locate hloc]
  simp only [hnone]

/-- **A replacement that succeeds leaves the whole content at the path.** -/
theorem done_of_replaceFile (h : v.replaceFile p content m = (w, none)) : v.Done p content w := by
  have hgrown := grown_of_replaceFile h
  have hcontent : w.nodeAt p = .ok (.file content) := by
    obtain ⟨parent, name, hloc, hnode⟩ := contentAt_eq_ok_iff.1 (contentAt_of_replaceFile h)
    simp only [nodeAt, hloc, hnode]
  refine ⟨hcontent, nodeAt_sibling_of_replaceFile h, fun q hplace hsibling old ↦ ?_, fun q hq ↦ ?_,
    hgrown.here⟩
  · have hwritten : ¬ (q = p.sibling.place v.here ∨ q = p.place v.here) :=
      fun hq ↦ hq.elim hsibling hplace
    exact ⟨hgrown.file hwritten, hgrown.file_of_file hwritten⟩
  · rcases hgrown.elsewhere q with hsame | hmade | hsibling | hplace
    · exact absurd hsame hq
    · exact .inr (.inr hmade)
    · exact .inr (.inl hsibling)
    · exact .inl hplace

/-- **Saving is all or nothing**, on every volume and whichever of its steps fails. -/
theorem saveCache_is_atomic (v : Volume) (x : Index) (s : Settings) (p : Path)
    (m : Option Mishap) :
    match v.saveCache x s p m with
    | (w, some _) => v.Undone p w
    | (w, none) => v.Done p (CacheRecord.ofIndex x s).encode w := by
  cases hsave : v.saveCache x s p m with
  | mk w e =>
    cases e with
    | some e => exact undone_of_replaceFile hsave
    | none => exact done_of_replaceFile hsave

/-- Nothing is on the volume, and the path is that of one of the directories above it: the save
makes that directory before it fails to put a file in its place. -/
theorem failed_save_makes_path :
    (Volume.mk [] ∅).nodeAt ⟨"x/../x"⟩ = .error .notFound ∧
      ((Volume.mk [] ∅).saveCache ∅ ⟨.cyrillic, false⟩ ⟨"x/../x"⟩ none).2 = some .isADirectory ∧
      ((Volume.mk [] ∅).saveCache ∅ ⟨.cyrillic, false⟩ ⟨"x/../x"⟩ none).1.nodeAt ⟨"x/../x"⟩ =
        .ok .directory := by
  decide +kernel

end Volume

end Concordance
