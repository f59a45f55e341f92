import Regress.FileTree

/-!
# Where a path leads, and what a write changes

A path is walked element by element, but where a walk arrives, when it arrives, is fixed by the
path's text alone: `.` stays, `..` climbs and a name goes down, from the root or from the
working directory (`target`, `locate_full`). The tree decides only whether the walk gets
there, and a walk that got there still does in a tree that keeps every directory
(`walk_of_dirs_kept`).

So a write changes the tree at its path's target and nowhere else (`writeFile_ok`,
`writeFile_target`), and `mkdir` puts a directory where there was nothing (`mkdir_eq`). A read
of the path written then gives back what was written (`readFile_of_writeFile`), and a second
write of the path succeeds as the first did (`writeFile_of_writeFile`). What a read gives is the
file at the target (`readFile_get?`), and a path that names a directory leads to a place that
holds one (`stat_dir_locate`).
-/

namespace Regress

namespace FileTree

/-! ## One update of the tree -/

theorem get?_set_of_ne {t : FileTree} {p q : List String} (n : Node) (h : q ≠ p) :
    (t.set p n).get? q = t.get? q := by
  unfold get? set
  split
  · rfl
  · have hpred : (fun a : List String × Node => !decide (a.1 = p) && decide (a.1 = q)) =
        fun a => a.1 == q := by
      funext a
      by_cases ha : a.1 = q <;> simp [ha, h]
    simp [Ne.symm h, List.find?_filter, hpred]

theorem get?_set_self {t : FileTree} {p : List String} (n : Node) (h : p ≠ []) :
    (t.set p n).get? p = some n := by
  simp [get?, set, h]

@[simp] theorem set_set (t : FileTree) (p : List String) (n n' : Node) :
    (t.set p n).set p n' = t.set p n' := by
  simp [set, List.filter_filter]

@[simp] theorem nameSize_set (t : FileTree) (p : List String) (n : Node) :
    (t.set p n).nameSize = t.nameSize := rfl

theorem get?_set_file_dir {t : FileTree} {p q : List String} {c : String} {x : Bool}
    (hp : t.get? p ≠ some .dir) (hq : t.get? q = some .dir) :
    (t.set p (.file c x)).get? q = some .dir := by
  have hne : q ≠ p := by
    rintro rfl
    exact hp hq
  rw [get?_set_of_ne _ hne, hq]

/-- `t'` holds what `t` holds at every path outside `ps`: whatever changed `t` into `t'`
touched `ps` at most. -/
def AgreeOff (t t' : FileTree) (ps : List (List String)) : Prop :=
  ∀ q, q ∉ ps → t'.get? q = t.get? q

namespace AgreeOff

theorem refl (t : FileTree) (ps : List (List String)) : t.AgreeOff t ps := fun _ _ => rfl

theorem mono {t t' : FileTree} {ps ps' : List (List String)} (h : t.AgreeOff t' ps)
    (hsub : ∀ q ∈ ps, q ∈ ps') : t.AgreeOff t' ps' :=
  fun q hq => h q fun hm => hq (hsub q hm)

theorem trans {t t' t'' : FileTree} {ps ps' : List (List String)} (h₁ : t.AgreeOff t' ps)
    (h₂ : t'.AgreeOff t'' ps') : t.AgreeOff t'' (ps ++ ps') := by
  intro q hq
  rw [List.mem_append, not_or] at hq
  exact (h₂ q hq.2).trans (h₁ q hq.1)

end AgreeOff

theorem agreeOff_set (t : FileTree) (p : List String) (n : Node) : t.AgreeOff (t.set p n) [p] :=
  fun _ hq => get?_set_of_ne n (by simpa using hq)

/-! ## Where a path leads -/

/-- Where a walk from `cur` over the elements `es` arrives when it arrives: `.` stays, `..`
climbs and a name goes down. -/
def descend (cur : List String) : List String → List String
  | [] => cur
  | e :: rest =>
    if e == "." then descend cur rest
    else if e == ".." then descend cur.dropLast rest
    else descend (cur ++ [e]) rest

/-- The absolute path that `p` leads to from the working directory `cwd`. -/
def target (cwd : List String) (p : String) : List String :=
  descend (if Path.isAbs p then [] else cwd) (elements p)

theorem Place.full_ne_nil {pl : Place} {n : String} (h : pl.name = some n) : pl.full ≠ [] := by
  simp [Place.full, h]

theorem walk_full {t : FileTree} {cur : List String} {es : List String}
    {parent : List String} {name : Option String}
    (h : t.walk cur es = .ok (parent, name)) (b : Bool) :
    (Place.mk parent name b).full = descend cur es := by
  fun_induction walk t cur es with
  | case1 => cases h; rfl
  | case2 cur last hdot => cases h; simp [descend, hdot, Place.full]
  | case3 cur last hdot hup => cases h; simp [descend, hdot, hup, Place.full]
  | case4 => cases h
  | case5 cur last hdot hup hlong => cases h; simp [descend, hdot, hup, Place.full]
  | case6 cur e rest _ hdot ih => simp [descend, hdot, ih h]
  | case7 cur e rest _ hdot hup ih => simp [descend, hdot, hup, ih h]
  | case8 => cases h
  | case9 cur e rest _ hdot hup hlong hdir ih => simp [descend, hdot, hup, ih h]
  | case10 => cases h
  | case11 => cases h

/-- What locating a path did: the path is not empty, and the walk from the root or from the
working directory arrived at the place. -/
theorem locate_ok {t : FileTree} {cwd : List String} {p : String} {pl : Place}
    (h : t.locate cwd p = .ok pl) :
    p.isEmpty = false ∧
      t.walk (if Path.isAbs p then [] else cwd) (elements p) = .ok (pl.parent, pl.name) := by
  unfold locate at h
  dsimp only at h
  split at h
  · cases h
  · rename_i hp
    refine ⟨by simpa using hp, ?_⟩
    split at h
    · cases h
    revert h
    cases t.walk (if Path.isAbs p then [] else cwd) (elements p) with
    | ok r =>
      obtain ⟨parent, name⟩ := r
      intro h
      cases h
      rfl
    | error e => intro h; cases h

theorem locate_short {t : FileTree} {cwd : List String} {p : String} {pl : Place}
    (h : t.locate cwd p = .ok pl) : t.nameSize p < maxPathLength := by
  unfold locate at h
  split at h
  · cases h
  · split at h
    · cases h
    · omega

theorem locate_full {t : FileTree} {cwd : List String} {p : String} {pl : Place}
    (h : t.locate cwd p = .ok pl) : pl.full = target cwd p :=
  walk_full (locate_ok h).2 pl.trailingSlash

/-- A walk that arrived still arrives in a tree that keeps every directory and measures names
the same way. -/
theorem walk_of_dirs_kept {t t' : FileTree} (hsize : t'.nameSize = t.nameSize)
    (hdir : ∀ p, t.get? p = some .dir → t'.get? p = some .dir) {cur es r}
    (h : t.walk cur es = .ok r) : t'.walk cur es = .ok r := by
  fun_induction walk t cur es with
  | case1 => simpa [walk] using h
  | case2 cur last hdot => simpa [walk, hdot] using h
  | case3 cur last hdot hup => simpa [walk, hdot, hup] using h
  | case5 cur last hdot hup hlong => simpa [walk, hdot, hup, hsize, hlong] using h
  -- the last three cases match `e :: rest` only for a `rest` that is not empty
  | case6 cur e rest hrest hdot ih =>
    cases rest with
    | nil => exact absurd rfl hrest
    | cons e' rest => simp [walk, hdot, ih h]
  | case7 cur e rest hrest hdot hup ih =>
    cases rest with
    | nil => exact absurd rfl hrest
    | cons e' rest => simp [walk, hdot, hup, ih h]
  | case9 cur e rest hrest hdot hup hlong hd ih =>
    cases rest with
    | nil => exact absurd rfl hrest
    | cons e' rest => simp [walk, hdot, hup, hsize, hlong, hdir _ hd, ih h]
  | case4 | case8 | case10 | case11 => cases h

theorem locate_of_dirs_kept {t t' : FileTree} (hsize : t'.nameSize = t.nameSize)
    (hdir : ∀ p, t.get? p = some .dir → t'.get? p = some .dir) {cwd : List String} {p : String}
    {pl : Place} (h : t.locate cwd p = .ok pl) : t'.locate cwd p = .ok pl := by
  obtain ⟨hp, hwalk⟩ := locate_ok h
  have hwalk' := walk_of_dirs_kept hsize hdir hwalk
  have hshort := locate_short h
  unfold locate at h ⊢
  simp only [hp, hsize, Nat.not_le.2 hshort, Bool.false_eq_true, ↓reduceIte] at h ⊢
  rw [hwalk'] at ⊢
  rw [hwalk] at h
  exact h

/-! ## Reading and writing -/

theorem stat_file {t : FileTree} {cwd : List String} {p c : String} {x : Bool}
    (h : t.stat cwd p = .ok (.file c x)) : t.get? (target cwd p) = some (.file c x) := by
  unfold stat at h
  split at h
  · cases h
  · rename_i pl hloc
    rw [← locate_full hloc]
    split at h
    · cases h
    · rename_i hget
      split at h
      · cases h
      · cases h
        exact hget
    · cases h

/-- A path that names a directory leads to a place that holds one. -/
theorem stat_dir_locate {t : FileTree} {cwd : List String} {p : String}
    (h : t.stat cwd p = .ok .dir) : ∃ pl, t.locate cwd p = .ok pl ∧ t.get? pl.full = some .dir := by
  unfold stat at h
  split at h
  · cases h
  · rename_i pl hloc
    refine ⟨pl, hloc, ?_⟩
    split at h
    · cases h
    · split at h <;> cases h
    · assumption

/-- What a read found: a file at the path's target. -/
theorem readFile_get? {t : FileTree} {cwd : List String} {p c : String}
    (h : t.readFile cwd p = .ok c) : ∃ x, t.get? (target cwd p) = some (.file c x) := by
  unfold readFile at h
  split at h
  · cases h
  · rename_i x hstat
    cases h
    exact ⟨x, stat_file hstat⟩
  · cases h

/-- What a write found and what it left: a named place that holds no directory, and the tree
with the new file there. -/
theorem writeFile_ok {t t' : FileTree} {cwd : List String} {p c : String}
    (h : t.writeFile cwd p c = .ok t') :
    ∃ pl n x, t.locate cwd p = .ok pl ∧ pl.name = some n ∧ pl.trailingSlash = false ∧
      t.get? pl.full ≠ some .dir ∧ t' = t.set pl.full (.file c x) := by
  unfold writeFile at h
  split at h
  · cases h
  · rename_i pl hloc
    split at h
    · cases h
    · rename_i n hname
      split at h
      · cases h
      · rename_i c₀ x hfull
        split at h
        · cases h
        · rename_i hslash
          cases h
          exact ⟨pl, n, x, hloc, hname, by simpa using hslash, by simp [hfull], rfl⟩
      · rename_i hparent hfull
        split at h
        · cases h
        · rename_i hslash
          cases h
          exact ⟨pl, n, false, hloc, hname, by simpa using hslash, by simp [hfull], rfl⟩
      · cases h

/-- What `mkdir` found and what it left: a named place with nothing at it, and the tree with a
directory there. -/
theorem mkdir_eq {t t' : FileTree} {cwd : List String} {p : String}
    (h : t.mkdir cwd p = .ok t') :
    ∃ pl n, t.locate cwd p = .ok pl ∧ pl.name = some n ∧ t.get? pl.full = none ∧
      t' = t.set pl.full .dir := by
  unfold mkdir at h
  split at h
  · cases h
  · rename_i pl hloc
    split at h
    · cases h
    · rename_i n hname
      split at h
      · cases h
      · rename_i hnone
        cases h
        exact ⟨pl, n, hloc, hname, hnone, rfl⟩

/-- A write sets the file at its path's target, and nothing else. -/
theorem writeFile_target {t t' : FileTree} {cwd : List String} {p c : String}
    (h : t.writeFile cwd p c = .ok t') :
    ∃ x, t' = t.set (target cwd p) (.file c x) ∧ target cwd p ≠ [] := by
  obtain ⟨pl, n, x, hloc, hname, -, -, rfl⟩ := writeFile_ok h
  rw [← locate_full hloc]
  exact ⟨x, rfl, Place.full_ne_nil hname⟩

/-- After a write, the path reads as what was written. -/
theorem readFile_of_writeFile {t t' : FileTree} {cwd : List String} {p c : String}
    (h : t.writeFile cwd p c = .ok t') : t'.readFile cwd p = .ok c := by
  obtain ⟨pl, n, x, hloc, hname, hslash, hnd, rfl⟩ := writeFile_ok h
  have hloc' : (t.set pl.full (.file c x)).locate cwd p = .ok pl :=
    locate_of_dirs_kept (nameSize_set _ _ _) (fun _ => get?_set_file_dir hnd) hloc
  simp [readFile, stat, hloc', get?_set_self _ (Place.full_ne_nil hname), hslash]

/-- After a write, the path can be written again, and the second write replaces the first. -/
theorem writeFile_of_writeFile {t t' : FileTree} {cwd : List String} {p c : String}
    (h : t.writeFile cwd p c = .ok t') :
    ∃ x, ∀ c', t'.writeFile cwd p c' = .ok (t.set (target cwd p) (.file c' x)) := by
  obtain ⟨pl, n, x, hloc, hname, hslash, hnd, rfl⟩ := writeFile_ok h
  have hloc' : (t.set pl.full (.file c x)).locate cwd p = .ok pl :=
    locate_of_dirs_kept (nameSize_set _ _ _) (fun _ => get?_set_file_dir hnd) hloc
  refine ⟨x, fun c' => ?_⟩
  rw [← locate_full hloc]
  simp [writeFile, hloc', hname, get?_set_self _ (Place.full_ne_nil hname), hslash]

end FileTree

end Regress
