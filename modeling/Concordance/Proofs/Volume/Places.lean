import Concordance.Proofs.Volume.Path

/-!
# Places and what is at them

Where a path leads does not depend on what is on the volume, only whether it leads there: the
`target` of a path is found by names alone, and a path that can be followed is followed to its
target (`eq_target_of_locate`). So a path leads to the same place on any two volumes on which it can
be followed, and it can still be followed when directories are added (`locate_mono`).

The files of one directory stand or fall together. If one name inside a directory can be followed,
then so can every other whose text is not at fault (`locate_child_of_locate_child`).
-/

namespace Concordance

/-- The place that segments name from a directory, whatever is there. -/
def nominal (place : Place) : List String → Place
  | [] => place
  | s :: rest =>
    if Path.isIdle s then nominal place rest
    else if s = ".." then nominal place.dropLast rest
    else nominal (place ++ [s]) rest

namespace Path

/-- The directory from which a path is followed, for one that is seen from `here`. -/
def base (p : Path) (here : Place) : Place :=
  if p.isAbsolute then [] else here

/-- Where a path leads, as seen from `here`, if there is a directory wherever one is needed. -/
def target (p : Path) (here : Place) : Target :=
  match p.segments.reverse.dropWhile (· = "") with
  | [] => .directory (p.base here)
  | s :: before =>
    if s = "." then .directory (nominal (p.base here) before.reverse)
    else if s = ".." then .directory (nominal (p.base here) before.reverse).dropLast
    else .entry (nominal (p.base here) before.reverse) s (p.segments.reverse.head? = some "")

/-- Can the text of a path be given to a volume at all? -/
def isFollowable (p : Path) : Bool :=
  !p.text.toList.contains '\x00' && !p.text.isEmpty && decide (p.text.utf8ByteSize < 4096)

end Path

/-- The place that a target is about. -/
def Target.place : Target → Place
  | .directory place => place
  | .entry parent name _ => parent ++ [name]

/-- The place that a path names. -/
def Path.place (p : Path) (here : Place) : Place :=
  (p.target here).place

namespace Path

theorem target_child {p : Path} {n : String} (h : IsName n) (here : Place) :
    ∃ parent, (p.child n).target here = .entry parent n false := by
  have hseg : (p.child n).segments.reverse = n :: p.leadSegments.reverse := by
    simp [segments_child h]
  refine ⟨nominal ((p.child n).base here) p.leadSegments, ?_⟩
  rw [target]
  rw [hseg, List.dropWhile_cons_of_neg (by simp [h.ne_empty])]
  simp [h.ne_empty, h.ne_dot, h.ne_dots]

/-- A path that leads to a name has that name as its last one. -/
theorem fileName?_of_target {p : Path} {here parent : Place} {n : String} {slash : Bool}
    (h : p.target here = .entry parent n slash) : p.fileName? = some n ∧ IsName n := by
  rw [target] at h
  cases hseg : p.segments.reverse.dropWhile (· = "") with
  | nil => simp [hseg] at h
  | cons s before =>
    simp only [hseg] at h
    split at h
    · exact absurd h (by simp)
    · next hdot =>
      split at h
      · exact absurd h (by simp)
      · next hdots =>
        cases h
        -- The last segment that is not empty is a segment, so no slash is in it.
        have hmem : n ∈ p.segments := by
          have hsuffix := List.dropWhile_suffix (l := p.segments.reverse) (· = "")
          rw [hseg] at hsuffix
          exact List.mem_reverse.1 (hsuffix.subset List.mem_cons_self)
        have hempty : n ≠ "" := by
          have hhead := List.head?_dropWhile_not (· = "") p.segments.reverse
          rw [hseg] at hhead
          simpa using hhead
        have hname : IsName n := by
          refine ⟨hempty, hdot, hdots, fun c hc ↦ ?_⟩
          obtain ⟨piece, hpiece, rfl⟩ := List.mem_map.1 hmem
          rw [String.toList_ofList] at hc
          simpa using not_sep_of_mem_cut hpiece hc
        exact ⟨fileName?_of_segments hname hseg, hname⟩

/-- **The sibling of a path that leads to a name leads to a longer name.** -/
theorem target_sibling {p : Path} {here parent : Place} {n : String} {slash : Bool}
    (h : p.target here = .entry parent n slash) :
    ∃ d, p.sibling.target here = .entry d (n ++ ".tmp") false := by
  obtain ⟨hfile, hname⟩ := fileName?_of_target h
  obtain ⟨q, hq⟩ := p.exists_sibling_eq_child
  rw [hq, hfile]
  exact target_child (IsName.append_tmp hname.no_slash) here

/-- A path and its sibling name different places. -/
theorem place_sibling_ne {p : Path} {here parent : Place} {n : String} {slash : Bool}
    (h : p.target here = .entry parent n slash) : p.sibling.place here ≠ p.place here := by
  obtain ⟨d, hd⟩ := target_sibling h
  rw [place, place, hd, h]
  intro heq
  have hlast := congrArg List.getLast? heq
  simp only [Target.place, List.getLast?_concat, Option.some.injEq] at hlast
  have hlength := congrArg String.length hlast
  rw [String.length_append] at hlength
  have : (".tmp" : String).length = 4 := rfl
  omega

end Path

namespace Volume

variable {v w : Volume}

/-! ### Following paths -/

/-- Segments that can be followed lead where their names say. -/
theorem eq_nominal_of_follow {place q : Place} {l : List String}
    (h : v.follow place l = .ok q) : q = nominal place l := by
  induction l generalizing place with
  | nil => cases h; rfl
  | cons s rest ih =>
    rw [follow] at h
    rw [nominal]
    split at h
    · next hs =>
      rw [if_pos hs]
      exact ih h
    · next hs =>
      rw [if_neg hs]
      split at h
      · next hdots =>
        rw [if_pos hdots]
        exact ih h
      · next hdots =>
        rw [if_neg hdots]
        split at h
        · exact absurd h (by simp)
        · split at h
          · exact absurd h (by simp)
          · exact absurd h (by simp)
          · exact ih h

/-- Segments can still be followed after directories were added. -/
theorem follow_mono (hdir : ∀ q, v.node? q = some .directory → w.node? q = some .directory)
    {place q : Place} {l : List String} (h : v.follow place l = .ok q) :
    w.follow place l = .ok q := by
  induction l generalizing place with
  | nil => exact h
  | cons s rest ih =>
    rw [follow] at h ⊢
    split
    · next hs =>
      rw [if_pos hs] at h
      exact ih h
    · next hs =>
      rw [if_neg hs] at h
      split
      · next hdots =>
        rw [if_pos hdots] at h
        exact ih h
      · next hdots =>
        rw [if_neg hdots] at h
        split
        · next hlong => rw [if_pos hlong] at h; exact absurd h (by simp)
        · next hlong =>
          rw [if_neg hlong] at h
          split at h
          · exact absurd h (by simp)
          · exact absurd h (by simp)
          · next hnode =>
            rw [hdir _ hnode]
            exact ih h

theorem locate_eq_ok_iff {p : Path} {t : Target} :
    v.locate p = .ok t ↔
      p.isFollowable = true ∧ v.locateFrom (p.base v.here) p.segments.reverse = .ok t := by
  rw [locate, Path.isFollowable, Path.base]
  by_cases hnull : '\x00' ∈ p.text.toList
  · simp [hnull]
  · by_cases hempty : p.text = ""
    · simp [hempty]
    · by_cases hlong : 4096 ≤ p.text.utf8ByteSize
      · simp [hnull, hempty, hlong, Nat.not_lt.2 hlong]
      · simp [hnull, hempty, hlong, Nat.lt_of_not_le hlong]

/-- **A path that can be followed leads to its target.** -/
theorem eq_target_of_locate {p : Path} {t : Target} (h : v.locate p = .ok t) :
    t = p.target v.here := by
  have hfrom := (locate_eq_ok_iff.1 h).2
  rw [locateFrom] at hfrom
  rw [Path.target]
  cases hseg : p.segments.reverse.dropWhile (· = "") with
  | nil =>
    simp only [hseg] at hfrom
    obtain rfl := Except.ok.inj hfrom
    rfl
  | cons s before =>
    simp only [hseg] at hfrom
    cases hparent : v.follow (p.base v.here) before.reverse with
    | error e => rw [hparent] at hfrom; exact absurd hfrom (by simp)
    | ok parent =>
      obtain rfl := eq_nominal_of_follow hparent
      rw [hparent] at hfrom
      simp only at hfrom ⊢
      split at hfrom
      · cases hfrom; simp_all
      · split at hfrom
        · cases hfrom; simp_all
        · split at hfrom
          · exact absurd hfrom (by simp)
          · cases hfrom; simp_all

/-- A path that can be followed to a name names the place of that name. -/
theorem place_of_locate {p : Path} {parent : Place} {name : String} {slash : Bool}
    (h : v.locate p = .ok (.entry parent name slash)) : p.place v.here = parent ++ [name] := by
  rw [Path.place, ← eq_target_of_locate h]
  rfl

/-- **A path can still be followed after directories were added**, and leads to the same place. -/
theorem locate_mono (hhere : w.here = v.here)
    (hdir : ∀ q, v.node? q = some .directory → w.node? q = some .directory) {p : Path} {t : Target}
    (h : v.locate p = .ok t) : w.locate p = .ok t := by
  obtain ⟨hfollow, hfrom⟩ := locate_eq_ok_iff.1 h
  refine locate_eq_ok_iff.2 ⟨hfollow, ?_⟩
  rw [hhere]
  rw [locateFrom] at hfrom ⊢
  cases hseg : p.segments.reverse.dropWhile (· = "") with
  | nil => simpa only [hseg] using hfrom
  | cons s before =>
    simp only [hseg] at hfrom ⊢
    cases hparent : v.follow (p.base v.here) before.reverse with
    | error e => rw [hparent] at hfrom; exact absurd hfrom (by simp)
    | ok parent =>
      rw [hparent] at hfrom
      rw [follow_mono hdir hparent]
      exact hfrom

/-- What it takes to follow the path to a name inside a directory. -/
theorem locate_child_eq_ok_iff {p : Path} {n : String} (hn : Path.IsName n) {t : Target} :
    v.locate (p.child n) = .ok t ↔
      (p.child n).isFollowable = true ∧ isLongName n = false ∧
        ∃ parent, v.follow ((p.child n).base v.here) p.leadSegments = .ok parent ∧
          t = .entry parent n false := by
  have hseg : (p.child n).segments.reverse = n :: p.leadSegments.reverse := by
    simp [Path.segments_child hn]
  rw [locate_eq_ok_iff, and_congr_right_iff]
  intro _
  rw [locateFrom]
  rw [hseg, List.dropWhile_cons_of_neg (by simp [hn.ne_empty])]
  simp only [List.reverse_reverse, if_neg hn.ne_dot, if_neg hn.ne_dots]
  cases hparent : v.follow ((p.child n).base v.here) p.leadSegments with
  | error e => simp
  | ok parent =>
    cases hlong : isLongName n with
    | true => simp
    | false => simp [hn.ne_empty, eq_comm]

/-- **Names inside one directory can be followed together**, whatever was made meanwhile. -/
theorem locate_child_of_locate_child (hhere : w.here = v.here) {p : Path} {m n : String}
    (hm : Path.IsName m) (hn : Path.IsName n) {s t : Target} (hv : v.locate (p.child m) = .ok s)
    (hw : w.locate (p.child n) = .ok t) : v.locate (p.child n) = .ok t := by
  have hbase : (p.child m).base v.here = (p.child n).base v.here := by
    rw [Path.base, Path.base, Path.isAbsolute_child hm, Path.isAbsolute_child hn]
  obtain ⟨-, -, parent, hparent, -⟩ := (locate_child_eq_ok_iff hm).1 hv
  obtain ⟨htext, hlong, parent', hparent', rfl⟩ := (locate_child_eq_ok_iff hn).1 hw
  rw [hbase] at hparent
  rw [hhere] at hparent'
  -- Both segments are followed from the same directory, so they lead to the same one.
  obtain rfl : parent = parent' := by
    rw [eq_nominal_of_follow hparent, eq_nominal_of_follow hparent']
  exact (locate_child_eq_ok_iff hn).2 ⟨htext, hlong, parent, hparent, rfl⟩

/-! ### Contents -/

/-- A path has a content if it can be followed to a file and no slash follows the name. -/
theorem contentAt_eq_ok_iff {p : Path} {content : Octets} :
    v.contentAt p = .ok content ↔
      ∃ parent name, v.locate p = .ok (.entry parent name false) ∧
        v.node? (parent ++ [name]) = some (.file content) := by
  constructor
  · intro h
    rw [contentAt] at h
    split at h
    · exact absurd h (by simp)
    · exact absurd h (by simp)
    · next c hnode =>
      obtain rfl := Except.ok.inj h
      rw [nodeAt] at hnode
      split at hnode
      · exact absurd hnode (by simp)
      · exact absurd hnode (by simp)
      · next parent name slash hloc =>
        cases slash with
        | true => split at hnode <;> simp_all
        | false =>
          split at hnode
          · exact absurd hnode (by simp)
          · simp_all
          · next hn _ =>
            obtain rfl := Except.ok.inj hnode
            exact ⟨parent, name, hloc, hn⟩
  · rintro ⟨parent, name, hloc, hnode⟩
    simp [contentAt, nodeAt, hloc, hnode]

theorem textAt_eq_ok_iff {p : Path} {text : String} :
    v.textAt p = .ok text ↔
      ∃ content, v.contentAt p = .ok content ∧ textOf? content = some text := by
  rw [textAt]
  cases v.contentAt p with
  | error e => simp
  | ok content => cases h : textOf? content <;> simp [h]

end Volume

end Concordance
