import Concordance.Command.Run
import Concordance.Proofs.Volume.Growth

/-!
# Making the data directory

Before a task is carried out, the data directory is made as far as it is missing. Nothing else
happens then: where the directory is there already, the volume stays as it was, and otherwise it has
only grown by the directory and by directories above it (`grown_of_prepareData`). What was made is
there, so making it a second time changes nothing (`prepareData_of_prepareData`); a command line that
follows another with the same particulars finds everything in place.
-/

namespace Concordance

namespace Volume

variable {v w : Volume} {p d : Path} {e : Environment} {chosen : Option Path}

theorem isDirectory_iff : v.isDirectory p = true ↔ v.nodeAt p = .ok .directory := by
  rw [isDirectory]
  split
  next h => simp [h]
  next h => simpa using h

/-- There is a directory at a path that leads to one, or to a name under which there is one. -/
theorem isDirectory_of_locate_entry {parent : Place} {name : String} {slash : Bool}
    (h : v.locate p = .ok (.entry parent name slash))
    (hnode : v.node? (parent ++ [name]) = some .directory) : v.isDirectory p = true := by
  rw [isDirectory_iff, nodeAt, h]
  cases slash <;> simp [hnode]

/-- Where there is a directory none can be made. -/
theorem makeDirectory_of_isDirectory (h : v.isDirectory p = true) :
    v.makeDirectory p = .error .alreadyExists := by
  rw [isDirectory_iff, nodeAt] at h
  rw [makeDirectory]
  rcases hloc : v.locate p with fault | place | ⟨parent, name, slash⟩
  · rw [hloc] at h
    exact absurd h (by simp)
  · rfl
  · rw [hloc] at h
    rcases hnode : v.node? (parent ++ [name]) with - | n
    · simp [hnode] at h
    · simp only [hnode]

/-- A directory that was made is there. -/
theorem isDirectory_of_makeDirectory (h : v.makeDirectory p = .ok w) : w.isDirectory p = true := by
  have hgrown := grown_makeDirectory h
  rw [makeDirectory] at h
  split at h
  · exact absurd h (by simp)
  · exact absurd h (by simp)
  · next parent name slash hloc =>
    split at h
    · exact absurd h (by simp)
    · obtain rfl := Except.ok.inj h
      refine isDirectory_of_locate_entry (hgrown.locate hloc) ?_
      rw [node?_put _ (by simp), if_pos rfl]

/-- A directory that was ensured is there, whether or not it was made. -/
theorem isDirectory_of_ensureDirectory (h : v.ensureDirectory p = (w, none)) :
    w.isDirectory p = true := by
  rw [ensureDirectory] at h
  split at h
  · next u hmake =>
    obtain ⟨rfl, -⟩ := Prod.mk.inj h
    exact isDirectory_of_makeDirectory hmake
  · obtain ⟨rfl, hnone⟩ := Prod.mk.inj h
    simpa using hnone

/-- Nothing is made above a directory that is there. -/
theorem makeChain_of_isDirectory (h : v.isDirectory p = true) (parents : List Path) :
    v.makeChain (p :: parents) = (v, none) := by
  rw [makeChain, makeDirectory_of_isDirectory h, h]
  split <;> rfl

/-- What was made as far as it was missing is there, unless the path is empty and stands for
nothing. -/
theorem isDirectory_of_makeChain {parents : List Path} (hp : p.text.isEmpty = false)
    (h : v.makeChain (p :: parents) = (w, none)) : w.isDirectory p = true := by
  rw [makeChain, hp, if_neg Bool.false_ne_true] at h
  split at h
  · next u hmake =>
    obtain ⟨rfl, -⟩ := Prod.mk.inj h
    exact isDirectory_of_makeDirectory hmake
  · split at h
    · exact isDirectory_of_ensureDirectory h
    · exact absurd h (by simp)
  · obtain ⟨rfl, hnone⟩ := Prod.mk.inj h
    simpa using hnone

/-- **Making directories a second time changes nothing.** -/
theorem makeDirectories_of_makeDirectories (h : v.makeDirectories p = (w, none)) :
    w.makeDirectories p = (w, none) := by
  rw [makeDirectories] at h ⊢
  rcases hp : p.text.isEmpty with - | -
  · exact makeChain_of_isDirectory (isDirectory_of_makeChain hp h) p.ancestors
  · rw [makeChain, hp, if_pos rfl]

/-- Preparing succeeds exactly if a directory is chosen and can be made. -/
theorem prepareData_eq_ok_iff :
    v.prepareData e chosen = (w, .ok d) ↔
      e.dataDirectory? chosen = some d ∧ v.makeDirectories d = (w, none) := by
  rw [prepareData]
  rcases e.dataDirectory? chosen with - | p
  · simp
  · rcases hmake : v.makeDirectories p with ⟨u, - | fault⟩
    · simp only [hmake, Prod.mk.injEq, Except.ok.injEq, Option.some.injEq]
      constructor
      · rintro ⟨rfl, rfl⟩
        exact ⟨rfl, hmake⟩
      · rintro ⟨rfl, hd⟩
        rw [hmake, Prod.mk.injEq] at hd
        exact ⟨hd.1, rfl⟩
    · simp only [hmake, Prod.mk.injEq, Option.some.injEq, reduceCtorEq, and_false, false_iff,
        not_and]
      rintro rfl
      simp [hmake]

/-- **A data directory that was made is not made again.** -/
theorem prepareData_of_prepareData (h : v.prepareData e chosen = (w, .ok d)) :
    w.prepareData e chosen = (w, .ok d) := by
  obtain ⟨hd, hmake⟩ := prepareData_eq_ok_iff.1 h
  exact prepareData_eq_ok_iff.2 ⟨hd, makeDirectories_of_makeDirectories hmake⟩

/-- Nothing is made if the data directory is there. -/
theorem eq_of_prepareData (h : v.prepareData e chosen = (w, .ok d)) (hd : v.isDirectory d = true) :
    w = v := by
  obtain ⟨-, hmake⟩ := prepareData_eq_ok_iff.1 h
  rw [makeDirectories, makeChain_of_isDirectory hd] at hmake
  exact (Prod.mk.inj hmake).1.symm

/-- **Nothing is made but the data directory and directories above it**, and these only where nothing
was. -/
theorem grown_of_prepareData (h : v.prepareData e chosen = (w, .ok d)) :
    v.Grown (fun q ↦ ∃ p ∈ d :: d.ancestors, p.place v.here = q) (fun _ ↦ False) w := by
  obtain ⟨-, hmake⟩ := prepareData_eq_ok_iff.1 h
  have hgrown := grown_makeChain v (d :: d.ancestors)
  rwa [← makeDirectories, hmake] at hgrown

/-- What a request comes to once the data directory is made. -/
theorem runCommand_eq_perform {arguments : List String} {r : Request}
    (hread : Request.read arguments = .ok r) (htask : ∀ shell, r.task ≠ .completions shell)
    (h : v.prepareData e r.dataDirectory? = (w, .ok d)) (input : Octets) :
    v.runCommand e arguments input = Assignment.perform ⟨r, d, e.corpus r.corpus?⟩ w input := by
  rw [runCommand, hread]
  show v.carryOut e r input = _
  rw [carryOut, h]
  split
  · next shell hshell => exact absurd hshell (htask shell)
  · rfl

end Volume

end Concordance
