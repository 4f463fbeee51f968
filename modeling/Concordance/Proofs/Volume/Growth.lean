import Concordance.Proofs.Volume.Places
import Concordance.Volume.Replacement

/-!
# What an operation on files may change

A volume has *grown* into another if directories were made in places where nothing was, and files
were written in some places, and nothing else happened. `Grown` names the places in question, so it
is also a statement about all others: there, everything is as it was.

Replacing a file as a whole only grows a volume. It makes directories that are missing above the
file. If it fails, the only other place it may have touched is that of the sibling
(`grown_of_replaceFile_error`); if it succeeds, the file is there and the sibling is gone
(`contentAt_of_replaceFile`, `node?_sibling_of_replaceFile`).
-/

namespace Concordance

namespace Path

/-- The directories above a path, nearest first. -/
def holders (p : Path) : List Path :=
  p.parent?.elim [] fun q ↦ q :: q.ancestors

/-- The places of the directories above a path. -/
def IsHolder (p : Path) (here : Place) (q : Place) : Prop :=
  ∃ h ∈ p.holders, h.place here = q

end Path

namespace Volume

/-- The second volume comes from the first by making directories where nothing was and by writing
files, in the places given. -/
structure Grown (v : Volume) (made written : Place → Prop) (w : Volume) : Prop where
  /-- Relative paths start from the same directory. -/
  here : w.here = v.here
  /-- Directories stay. -/
  directory : ∀ q, v.node? q = some .directory → w.node? q = some .directory
  /-- In a place where no file was written, nothing changed, except that a directory was made. -/
  elsewhere : ∀ q, w.node? q = v.node? q ∨
    (made q ∧ v.node? q = none ∧ w.node? q = some .directory) ∨ written q

variable {u v w : Volume} {made made' written written' : Place → Prop} {p : Path}

namespace Grown

theorem refl (v : Volume) : v.Grown made written v :=
  ⟨rfl, fun _ h ↦ h, fun _ ↦ .inl rfl⟩

theorem mono (h : v.Grown made written w) (hmade : ∀ q, made q → made' q)
    (hwritten : ∀ q, written q → written' q) : v.Grown made' written' w := by
  refine ⟨h.here, h.directory, fun q ↦ ?_⟩
  rcases h.elsewhere q with hsame | ⟨hm, hv, hw⟩ | hq
  · exact .inl hsame
  · exact .inr (.inl ⟨hmade q hm, hv, hw⟩)
  · exact .inr (.inr (hwritten q hq))

theorem mono_made (h : v.Grown made written w) (hmade : ∀ q, made q → made' q) :
    v.Grown made' written w :=
  h.mono hmade fun _ hq ↦ hq

theorem mono_written (h : v.Grown made written w) (hwritten : ∀ q, written q → written' q) :
    v.Grown made written' w :=
  h.mono (fun _ hq ↦ hq) hwritten

/-- A volume that only had directories made has also grown by these and any files. -/
theorem of_made (h : v.Grown made (fun _ ↦ False) w) : v.Grown made written w :=
  h.mono_written fun _ hq ↦ hq.elim

/-- **Growth adds up**, which is how an operation on files is followed step by step. -/
theorem trans (h : v.Grown made written u) (h' : u.Grown made written w) :
    v.Grown made written w := by
  refine ⟨h'.here.trans h.here, fun q hq ↦ h'.directory q (h.directory q hq), fun q ↦ ?_⟩
  rcases h.elsewhere q with hvu | ⟨hm, hv, hu⟩ | hq
  · rw [← hvu]
    exact h'.elsewhere q
  · exact .inr (.inl ⟨hm, hv, h'.directory q hu⟩)
  · exact .inr (.inr hq)

/-- A path that led somewhere still leads there, since directories stay. -/
theorem locate (h : v.Grown made written w) {t : Target} (ht : v.locate p = .ok t) :
    w.locate p = .ok t :=
  locate_mono h.here h.directory ht

/-- A file stays unless its place was written. -/
theorem file (h : v.Grown made written w) {q : Place} (hq : ¬ written q) {content : Octets}
    (hv : v.node? q = some (.file content)) : w.node? q = some (.file content) := by
  rcases h.elsewhere q with hsame | ⟨-, hnone, -⟩ | hw
  · rw [hsame, hv]
  · rw [hv] at hnone
    exact absurd hnone (by simp)
  · exact absurd hw hq

/-- A file was there before unless its place was written. -/
theorem file_of_file (h : v.Grown made written w) {q : Place} (hq : ¬ written q)
    {content : Octets} (hw : w.node? q = some (.file content)) :
    v.node? q = some (.file content) := by
  rcases h.elsewhere q with hsame | ⟨-, -, hdir⟩ | hwritten
  · rw [← hsame, hw]
  · rw [hw] at hdir
    exact absurd hdir (by simp)
  · exact absurd hwritten hq

/-- A path that has a content keeps it unless its place was written. -/
theorem contentAt (h : v.Grown made written w) (hq : ¬ written (p.place v.here))
    {content : Octets} (hv : v.contentAt p = .ok content) : w.contentAt p = .ok content := by
  obtain ⟨parent, name, hloc, hnode⟩ := contentAt_eq_ok_iff.1 hv
  rw [place_of_locate hloc] at hq
  exact contentAt_eq_ok_iff.2 ⟨parent, name, h.locate hloc, h.file hq hnode⟩

end Grown

/-! ### Making directories -/

theorem grown_makeDirectory (h : v.makeDirectory p = .ok w) :
    v.Grown (· = p.place v.here) (fun _ ↦ False) w := by
  rw [makeDirectory] at h
  split at h
  · exact absurd h (by simp)
  · exact absurd h (by simp)
  · next parent name slash hloc =>
    have hplace := place_of_locate hloc
    split at h
    · exact absurd h (by simp)
    · next hnone =>
      obtain rfl := Except.ok.inj h
      have hput := node?_put v (p := parent ++ [name]) (by simp) .directory
      refine ⟨rfl, fun q hq ↦ ?_, fun q ↦ ?_⟩
      · rw [hput]
        split
        · rfl
        · exact hq
      · rw [hput, hplace]
        by_cases hq : q = parent ++ [name]
        · simp [hq, hnone]
        · simp [hq]

theorem grown_ensureDirectory (v : Volume) (p : Path) :
    v.Grown (· = p.place v.here) (fun _ ↦ False) (v.ensureDirectory p).1 := by
  rw [ensureDirectory]
  split
  · next w h => exact grown_makeDirectory h
  · exact .refl v

/-- Making a directory with its ancestors makes nothing but these. -/
theorem grown_makeChain (v : Volume) (l : List Path) :
    v.Grown (fun q ↦ ∃ p ∈ l, p.place v.here = q) (fun _ ↦ False) (v.makeChain l).1 := by
  induction l with
  | nil => exact .refl v
  | cons p parents ih =>
    -- Places are seen from the same directory on every volume on the way.
    have hhead {u : Volume} (hhere : u.here = v.here) (q : Place) (hq : q = p.place u.here) :
        ∃ p' ∈ p :: parents, p'.place v.here = q :=
      ⟨p, List.mem_cons_self, by rw [hq, hhere]⟩
    have hrest : v.Grown (fun q ↦ ∃ p' ∈ p :: parents, p'.place v.here = q) (fun _ ↦ False)
        (v.makeChain parents).1 :=
      ih.mono_made fun q ⟨p', hp', hq⟩ ↦ ⟨p', List.mem_cons_of_mem p hp', hq⟩
    rw [makeChain]
    split
    · exact .refl v
    · split
      · next w h => exact (grown_makeDirectory h).mono_made (hhead rfl)
      · split
        · next w hw =>
          rw [hw] at hrest
          exact hrest.trans ((grown_ensureDirectory w p).mono_made (hhead hrest.here))
        · next w e hw =>
          rw [hw] at hrest
          exact hrest
      · exact .refl v

/-- The directories that are made are among those above the path. -/
theorem mem_of_mem_ancestors_drop {q a : Path} {n : Nat} (h : p.parent? = some q)
    (ha : a ∈ q.ancestors.drop n) : a ∈ p.holders := by
  rw [Path.holders, h]
  exact List.mem_cons_of_mem q (List.mem_of_mem_drop ha)

/-- **Making what is missing above a path** touches no file, whether or not it comes to its end. -/
theorem grown_makeHolder (v : Volume) (p : Path) (m : Option Mishap) :
    v.Grown (p.IsHolder v.here) (fun _ ↦ False) (v.makeHolder p m).1 := by
  rw [makeHolder]
  split
  · exact .refl v
  · next q hq =>
    split
    · exact .refl v
    · split
      · next n =>
        refine (grown_makeChain v (q.ancestors.drop n)).mono_made ?_
        rintro place ⟨a, ha, hplace⟩
        exact ⟨a, mem_of_mem_ancestors_drop hq ha, hplace⟩
      · refine (grown_makeChain v (q :: q.ancestors)).mono_made ?_
        rintro place ⟨a, ha, hplace⟩
        refine ⟨a, ?_, hplace⟩
        rw [Path.holders, hq]
        exact ha

/-! ### Writing and moving files -/

/-- What it takes to write a file, and what has changed then. -/
theorem writeFile_eq_ok_iff {content : Octets} :
    v.writeFile p content = .ok w ↔
      ∃ parent name, v.locate p = .ok (.entry parent name false) ∧
        v.node? (parent ++ [name]) ≠ some .directory ∧
          w = v.put (parent ++ [name]) (.file content) := by
  constructor
  · intro h
    rw [writeFile] at h
    split at h
    · exact absurd h (by simp)
    · exact absurd h (by simp)
    · exact absurd h (by simp)
    · next parent name hloc =>
      split at h
      · exact absurd h (by simp)
      · next hdir =>
        obtain rfl := Except.ok.inj h
        exact ⟨parent, name, hloc, hdir, rfl⟩
  · rintro ⟨parent, name, hloc, hdir, rfl⟩
    rw [writeFile]
    rw [hloc]
    cases hnode : v.node? (parent ++ [name]) with
    | none => simp [hnode]
    | some n =>
      cases n with
      | directory => exact absurd hnode hdir
      | file old => simp [hnode]

/-- What a move that succeeded has done. -/
theorem of_moveFile_eq_ok {q : Path} (h : v.moveFile p q = .ok w) :
    ∃ d n d' n' content, v.locate p = .ok (.entry d n false) ∧
      v.locate q = .ok (.entry d' n' false) ∧ v.node? (d ++ [n]) = some (.file content) ∧
        v.node? (d' ++ [n']) ≠ some .directory ∧
          w = (v.clear (d ++ [n])).put (d' ++ [n']) (.file content) := by
  rw [moveFile] at h
  split at h
  · exact absurd h (by simp)
  · exact absurd h (by simp)
  · exact absurd h (by simp)
  · exact absurd h (by simp)
  · next d n s d' n' s' hp hq =>
    split at h
    · exact absurd h (by simp)
    · exact absurd h (by simp)
    · next content hfile =>
      split at h
      · exact absurd h (by simp)
      · next hslash =>
        simp only [Bool.or_eq_true, not_or, Bool.not_eq_true] at hslash
        obtain ⟨rfl, rfl⟩ := hslash
        split at h
        · exact absurd h (by simp)
        · next hdir =>
          obtain rfl := Except.ok.inj h
          exact ⟨d, n, d', n', content, hp, hq, hfile, hdir, rfl⟩

theorem grown_put {q : Place} (hq : q ≠ []) (hdir : v.node? q ≠ some .directory)
    (content : Octets) : v.Grown made (· = q) (v.put q (.file content)) := by
  have hput := node?_put v hq (.file content)
  refine ⟨rfl, fun q' hq' ↦ ?_, fun q' ↦ ?_⟩
  · rw [hput, if_neg, hq']
    rintro rfl
    exact hdir hq'
  · rw [hput]
    by_cases h : q' = q
    · exact .inr (.inr h)
    · exact .inl (if_neg h)

/-- Taking a file away counts as writing, for the place is another one afterwards. -/
theorem grown_clear {q : Place} (hq : q ≠ []) (hdir : v.node? q ≠ some .directory) :
    v.Grown made (· = q) (v.clear q) := by
  have hclear := node?_clear v hq
  refine ⟨rfl, fun q' hq' ↦ ?_, fun q' ↦ ?_⟩
  · rw [hclear, if_neg, hq']
    rintro rfl
    exact hdir hq'
  · rw [hclear]
    by_cases h : q' = q
    · exact .inr (.inr h)
    · exact .inl (if_neg h)

/-- Moving a file touches the place it leaves and the place it takes. -/
theorem grown_clear_put {q r : Place} {content : Octets} (hq : q ≠ []) (hr : r ≠ [])
    (hfile : v.node? q = some (.file content)) (hdir : v.node? r ≠ some .directory) :
    v.Grown made (fun s ↦ s = q ∨ s = r) ((v.clear q).put r (.file content)) := by
  have hclear : v.Grown made (· = q) (v.clear q) := grown_clear hq (by simp [hfile])
  have hdir' : (v.clear q).node? r ≠ some .directory := by
    rw [node?_clear _ hq]
    split
    · simp
    · exact hdir
  -- Nothing became a directory, so the place taken is still none.
  have hput : (v.clear q).Grown made (· = r) ((v.clear q).put r (.file content)) :=
    grown_put hr hdir' content
  exact (hclear.mono_written fun _ h ↦ .inl h).trans (hput.mono_written fun _ h ↦ .inr h)

/-- A write that succeeds touches one place. -/
theorem grown_writeFile {content : Octets} (h : v.writeFile p content = .ok w) :
    v.Grown made (· = p.place v.here) w := by
  obtain ⟨parent, name, hloc, hdir, rfl⟩ := writeFile_eq_ok_iff.1 h
  rw [place_of_locate hloc]
  exact grown_put (by simp) hdir content

/-! ### Replacing a file -/

/-- Writing the sibling either does nothing or writes that file; nothing failed only if it was
written in full. -/
theorem of_writeSibling {content : Octets} {m : Option Mishap} {e : Option FileFault}
    (h : v.writeSibling p content m = (w, e)) :
    w = v ∧ e ≠ none ∨
      ∃ part, v.writeFile p.sibling part = .ok w ∧ (e = none → part = content) := by
  unfold writeSibling at h
  -- How the sibling is named does not matter here, and reducing its name is slow.
  generalize v.writeFile p.sibling = write at h ⊢
  split at h
  · obtain ⟨rfl, rfl⟩ := Prod.mk.inj h
    exact .inl ⟨rfl, by simp⟩
  · next n =>
    cases hw : write (content.take n) with
    | ok w' =>
      simp only [hw] at h
      obtain ⟨rfl, rfl⟩ := Prod.mk.inj h
      exact .inr ⟨content.take n, hw, by simp⟩
    | error e' =>
      simp only [hw] at h
      obtain ⟨rfl, rfl⟩ := Prod.mk.inj h
      exact .inl ⟨rfl, by simp⟩
  · cases hw : write content with
    | ok w' =>
      simp only [hw] at h
      obtain ⟨rfl, rfl⟩ := Prod.mk.inj h
      exact .inr ⟨content, hw, fun _ ↦ rfl⟩
    | error e' =>
      simp only [hw] at h
      obtain ⟨rfl, rfl⟩ := Prod.mk.inj h
      exact .inl ⟨rfl, by simp⟩

/-- Whether or not the sibling is written as a whole, no other file is touched. -/
theorem grown_writeSibling {content : Octets} {m : Option Mishap} {e : Option FileFault}
    (h : v.writeSibling p content m = (w, e)) :
    v.Grown made (· = p.sibling.place v.here) w := by
  rcases of_writeSibling h with ⟨rfl, -⟩ | ⟨part, hpart, -⟩
  · exact .refl w
  · exact grown_writeFile hpart

/-- A sibling that cannot be moved stays where it is. -/
theorem promoteSibling_eq {m : Option Mishap} {w : Volume} {e : FileFault}
    (h : v.promoteSibling p m = (w, some e)) : w = v := by
  unfold promoteSibling at h
  split at h
  · obtain ⟨rfl, -⟩ := Prod.mk.inj h
    rfl
  · split at h
    · exact absurd h (by simp)
    · obtain ⟨rfl, -⟩ := Prod.mk.inj h
      rfl

theorem moveFile_of_promoteSibling {m : Option Mishap}
    (h : v.promoteSibling p m = (w, none)) : v.moveFile p.sibling p = .ok w := by
  unfold promoteSibling at h
  split at h
  · exact absurd h (by simp)
  · split at h
    · next w' hw =>
      obtain ⟨rfl, -⟩ := Prod.mk.inj h
      exact hw
    · exact absurd h (by simp)

/-- A replacement that failed has made directories and then written the sibling or not. -/
theorem of_replaceFile_error {content : Octets} {m : Option Mishap} {e : FileFault}
    (h : v.replaceFile p content m = (w, some e)) :
    w = (v.makeHolder p m).1 ∨
      ∃ part, (v.makeHolder p m).1.writeFile p.sibling part = .ok w := by
  have hsibling {u t : Volume} {e' : Option FileFault} (ht : u.writeSibling p content m = (t, e')) :
      t = u ∨ ∃ part, u.writeFile p.sibling part = .ok t := by
    rcases of_writeSibling ht with ⟨rfl, -⟩ | ⟨part, hpart, -⟩
    · exact .inl rfl
    · exact .inr ⟨part, hpart⟩
  rw [replaceFile] at h
  split at h
  · next u e' hu =>
    obtain ⟨rfl, -⟩ := Prod.mk.inj h
    rw [hu]
    exact .inl rfl
  · next u hu =>
    rw [hu]
    split at h
    · next t e' ht =>
      obtain ⟨rfl, -⟩ := Prod.mk.inj h
      exact hsibling ht
    · next t ht =>
      rw [promoteSibling_eq h]
      exact hsibling ht

/-- **A replacement that fails leaves everything as it was**, except that it may have made
directories above the file and written its sibling. -/
theorem grown_of_replaceFile_error {content : Octets} {m : Option Mishap} {e : FileFault}
    (h : v.replaceFile p content m = (w, some e)) :
    v.Grown (p.IsHolder v.here) (· = p.sibling.place v.here) w := by
  have hholder : v.Grown (p.IsHolder v.here) (· = p.sibling.place v.here) (v.makeHolder p m).1 :=
    (grown_makeHolder v p m).of_made
  rcases of_replaceFile_error h with rfl | ⟨part, hpart⟩
  · exact hholder
  · have hsibling : (v.makeHolder p m).1.Grown (p.IsHolder v.here)
        (· = p.sibling.place (v.makeHolder p m).1.here) w := grown_writeFile hpart
    rw [hholder.here] at hsibling
    exact hholder.trans hsibling

/-- What a replacement that succeeded has done: at a stage `u`, reached by making directories and
writing the sibling, the sibling took the place of the file. -/
theorem exists_stage_of_replaceFile {content : Octets} {m : Option Mishap}
    (h : v.replaceFile p content m = (w, none)) :
    ∃ u d n parent name, v.Grown (p.IsHolder v.here) (· = p.sibling.place v.here) u ∧
      u.locate p.sibling = .ok (.entry d n false) ∧ u.locate p = .ok (.entry parent name false) ∧
        u.node? (d ++ [n]) = some (.file content) ∧ u.node? (parent ++ [name]) ≠ some .directory ∧
          w = (u.clear (d ++ [n])).put (parent ++ [name]) (.file content) := by
  have hholder := grown_makeHolder v p m
  rw [replaceFile] at h
  split at h
  · exact absurd h (by simp)
  · next t ht =>
    rw [ht] at hholder
    have hholder' : v.Grown (p.IsHolder v.here) (· = p.sibling.place v.here) t := hholder.of_made
    split at h
    · exact absurd h (by simp)
    · next u hu =>
      have hsibling : t.Grown (p.IsHolder v.here) (· = p.sibling.place t.here) u :=
        grown_writeSibling hu
      rw [hholder.here] at hsibling
      obtain ⟨part, hpart, hfull⟩ :
          ∃ part, t.writeFile p.sibling part = .ok u ∧ part = content := by
        rcases of_writeSibling hu with ⟨-, hne⟩ | ⟨part, hpart, hfull⟩
        · exact absurd rfl hne
        · exact ⟨part, hpart, hfull rfl⟩
      subst hfull
      obtain ⟨d, n, parent, name, moved, hloc, hloc', hfile, hdir, hw⟩ :=
        of_moveFile_eq_ok (moveFile_of_promoteSibling h)
      obtain ⟨d', n', hwloc, hwdir, hput⟩ := writeFile_eq_ok_iff.1 hpart
      have hnode : u.node? (d' ++ [n']) = some (.file part) := by
        rw [hput, node?_put _ (by simp), if_pos rfl]
      -- The sibling is found where it was written.
      have hwritten : t.Grown (p.IsHolder v.here) (· = p.sibling.place t.here) u :=
        grown_writeFile hpart
      have htarget := hwritten.locate hwloc
      rw [hloc] at htarget
      cases htarget
      rw [hnode] at hfile
      cases hfile
      exact ⟨u, d, n, parent, name, hholder'.trans hsibling, hloc, hloc', hnode, hdir, hw⟩

/-- **A replacement that succeeds changes no other file**: beyond the file and its sibling, it may
only have made directories above the file. -/
theorem grown_of_replaceFile {content : Octets} {m : Option Mishap}
    (h : v.replaceFile p content m = (w, none)) :
    v.Grown (p.IsHolder v.here) (fun q ↦ q = p.sibling.place v.here ∨ q = p.place v.here) w := by
  obtain ⟨u, d, n, parent, name, hu, hloc, hloc', hfile, hdir, rfl⟩ := exists_stage_of_replaceFile h
  -- The stage sees the same places as the volume at the beginning.
  have hsibling := place_of_locate hloc
  have hplace := place_of_locate hloc'
  rw [hu.here] at hsibling hplace
  rw [hsibling] at hu
  rw [hsibling, hplace]
  exact (hu.mono_written fun _ h ↦ .inl h).trans
    (grown_clear_put (by simp) (by simp) hfile hdir)

/-- **A replacement that succeeds leaves the whole content at the path.** -/
theorem contentAt_of_replaceFile {content : Octets} {m : Option Mishap}
    (h : v.replaceFile p content m = (w, none)) : w.contentAt p = .ok content := by
  obtain ⟨u, d, n, parent, name, -, -, hloc, hfile, hdir, rfl⟩ := exists_stage_of_replaceFile h
  have hgrown : u.Grown (p.IsHolder v.here) (fun q ↦ q = d ++ [n] ∨ q = parent ++ [name])
      ((u.clear (d ++ [n])).put (parent ++ [name]) (.file content)) :=
    grown_clear_put (by simp) (by simp) hfile hdir
  refine contentAt_eq_ok_iff.2 ⟨parent, name, hgrown.locate hloc, ?_⟩
  rw [node?_put _ (by simp), if_pos rfl]

/-- After a replacement that succeeded there is nothing at the place of the sibling. -/
theorem node?_sibling_of_replaceFile {content : Octets} {m : Option Mishap}
    (h : v.replaceFile p content m = (w, none)) : w.node? (p.sibling.place v.here) = none := by
  obtain ⟨u, d, n, parent, name, hu, hloc, hloc', -, -, rfl⟩ := exists_stage_of_replaceFile h
  have hne := Path.place_sibling_ne (eq_target_of_locate hloc').symm
  rw [place_of_locate hloc, place_of_locate hloc'] at hne
  rw [← hu.here, place_of_locate hloc]
  rw [node?_put _ (by simp), if_neg hne, node?_clear _ (by simp), if_pos rfl]

end Volume

end Concordance
