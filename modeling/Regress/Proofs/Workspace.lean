import Regress.Workspace
import Regress.Proofs.Files

/-!
# What setting up a workspace changes

`Workspace.prepare` only ever adds directories: every node of the tree it started from is still
there, and a path that named nothing names at most a new directory (`prepare_dirsAdded`). So
no file is written while the workspace is set up, whether it succeeds or stops at a directory
it cannot make, and a failure it reports is a workspace failure (`prepare_failure_kind`).

As a list, the new tree is the old one with directory nodes put in front
(`prepare_dirsPrepended`): the entries a directory listing finds are the old ones and some new
directories.

The argument goes up from the tree's one update: `set` changes the node at one path and no
other (`get?_set_self`, `get?_set_of_ne`), and `mkdir` sets a directory where there was nothing.
`mkdirAllKeeping` makes a path's parents before the path itself and changes the tree only by
`mkdir`, so what every `mkdir` keeps (`KeptByMkdir`), it keeps too (`mkdirAllKeeping_go_rel`),
and so does the whole setup (`ensureAll_rel`).
-/

namespace Regress

namespace FileTree

/-- `t'` is `t` with directories added: every node of `t` is kept, and a path with no node in
`t` has at most a new directory in `t'`. -/
def DirsAdded (t t' : FileTree) : Prop :=
  ∀ p, t'.get? p = t.get? p ∨ (t.get? p = none ∧ t'.get? p = some .dir)

namespace DirsAdded

theorem refl (t : FileTree) : DirsAdded t t := fun _ => .inl rfl

theorem trans {t t' t'' : FileTree} (h₁ : DirsAdded t t') (h₂ : DirsAdded t' t'') :
    DirsAdded t t'' := by
  intro p
  rcases h₁ p with h₁ | ⟨hn, hd⟩ <;> rcases h₂ p with h₂ | ⟨hn', hd'⟩
  · exact .inl (h₂.trans h₁)
  · exact .inr ⟨h₁ ▸ hn', hd'⟩
  · exact .inr ⟨hn, h₂.trans hd⟩
  · rw [hd] at hn'
    cases hn'

/-- A file of the second tree was the same file in the first: only directories were added. -/
theorem get?_file_of {t t' : FileTree} (h : DirsAdded t t') {p : List String} {content : String}
    {x : Bool} (hp : t'.get? p = some (.file content x)) : t.get? p = some (.file content x) := by
  rcases h p with h | ⟨-, hd⟩
  · exact h ▸ hp
  · rw [hd] at hp
    cases hp

end DirsAdded

theorem dirsAdded_set_dir {t : FileTree} {p : List String} (h : t.get? p = none) :
    DirsAdded t (t.set p .dir) := by
  intro q
  by_cases hq : q = p
  · subst hq
    have hne : q ≠ [] := by
      rintro rfl
      simp [get?] at h
    exact .inr ⟨h, get?_set_self .dir hne⟩
  · exact .inl (get?_set_of_ne .dir hq)

theorem mkdir_dirsAdded {t t' : FileTree} {cwd : List String} {p : String}
    (h : t.mkdir cwd p = .ok t') : DirsAdded t t' := by
  obtain ⟨pl, n, -, -, hnone, rfl⟩ := mkdir_eq h
  exact dirsAdded_set_dir hnone

/-- `t'` is `t` with directory nodes put before its own: the nodes of `t` are all still listed,
in order, and nothing else about the tree changed. -/
def DirsPrepended (t t' : FileTree) : Prop :=
  ∃ dirs : List (List String), t' = { t with nodes := dirs.map (·, Node.dir) ++ t.nodes }

namespace DirsPrepended

theorem refl (t : FileTree) : DirsPrepended t t := ⟨[], rfl⟩

theorem trans {t t' t'' : FileTree} (h₁ : DirsPrepended t t') (h₂ : DirsPrepended t' t'') :
    DirsPrepended t t'' := by
  obtain ⟨dirs₁, rfl⟩ := h₁
  obtain ⟨dirs₂, rfl⟩ := h₂
  exact ⟨dirs₂ ++ dirs₁, by simp⟩

/-- Names are measured as before: only nodes were added. -/
theorem nameSize_eq {t t' : FileTree} (h : DirsPrepended t t') : t'.nameSize = t.nameSize := by
  obtain ⟨dirs, rfl⟩ := h
  rfl

end DirsPrepended

/-- A path with no node is listed nowhere among the nodes, so setting it drops none of them. -/
theorem set_of_get?_eq_none {t : FileTree} {p : List String} (h : t.get? p = none) (n : Node) :
    t.set p n = { t with nodes := (p, n) :: t.nodes } := by
  have hp : p ≠ [] := by
    rintro rfl
    simp [get?] at h
  have hfind : t.nodes.find? (·.1 == p) = none := by simpa [get?, hp] using h
  have hkeep : t.nodes.filter (·.1 != p) = t.nodes := by
    rw [List.filter_eq_self]
    intro e he
    simpa using List.find?_eq_none.mp hfind e he
  simp [set, hkeep]

theorem mkdir_dirsPrepended {t t' : FileTree} {cwd : List String} {p : String}
    (h : t.mkdir cwd p = .ok t') : DirsPrepended t t' := by
  obtain ⟨pl, n, -, -, hnone, rfl⟩ := mkdir_eq h
  exact ⟨[_], by rw [set_of_get?_eq_none hnone]; rfl⟩

/-! ## Relations that every `mkdir` makes hold

`mkdirAllKeeping` only ever calls `mkdir`, so a relation between trees that holds across each
successful `mkdir`, and that is reflexive and transitive, holds between a tree and what
`mkdirAllKeeping` makes of it. -/

/-- A relation between trees that is reflexive and transitive and that every `mkdir` that
succeeds makes hold. -/
structure KeptByMkdir (R : FileTree → FileTree → Prop) : Prop where
  refl : ∀ t, R t t
  trans : ∀ {t₁ t₂ t₃ : FileTree}, R t₁ t₂ → R t₂ t₃ → R t₁ t₃
  step : ∀ {t₁ t₂ : FileTree} {cwd : List String} {p : String}, t₁.mkdir cwd p = .ok t₂ → R t₁ t₂

theorem DirsAdded.keptByMkdir : KeptByMkdir DirsAdded :=
  ⟨DirsAdded.refl, DirsAdded.trans, mkdir_dirsAdded⟩

theorem DirsPrepended.keptByMkdir : KeptByMkdir DirsPrepended :=
  ⟨DirsPrepended.refl, DirsPrepended.trans, mkdir_dirsPrepended⟩

section Chain

variable {R : FileTree → FileTree → Prop} (hR : KeptByMkdir R)

include hR in
/-- What `mkdirAllKeeping` makes of the parent of a path is related to the tree, if the
parent's own run is. -/
theorem rel_of_parent {t t' : FileTree} {cwd : List String} {cs : List Char}
    {o : Option FsError}
    (hparent : (if _h : (parentPrefix cs).length > 1 then
        mkdirAllKeeping.go t cwd ((parentPrefix cs).take ((parentPrefix cs).length - 1))
      else (t, none)) = (t', o))
    (ih : (parentPrefix cs).length > 1 → R t
      (mkdirAllKeeping.go t cwd ((parentPrefix cs).take ((parentPrefix cs).length - 1))).1) :
    R t t' := by
  split at hparent
  · rename_i h
    have := ih h
    rwa [hparent] at this
  · cases hparent
    exact hR.refl t

include hR in
theorem mkdirAllKeeping_go_rel (t : FileTree) (cwd : List String) (cs : List Char) :
    R t (mkdirAllKeeping.go t cwd cs).1 := by
  -- the parent is made first, then the path itself, if it is still missing
  fun_induction mkdirAllKeeping.go t cwd cs with
  | case1 => exact hR.refl t
  | case2 => exact hR.refl t
  | case3 _ _ _ _ _ _ _ hparent ih => exact rel_of_parent hR hparent ih
  | case4 _ _ _ _ _ _ hparent _ hmade ih =>
    exact hR.trans (rel_of_parent hR hparent ih) (hR.step hmade)
  | case5 _ _ _ _ _ _ hparent _ _ _ ih => exact rel_of_parent hR hparent ih
  | case6 _ _ _ _ _ _ hparent _ _ _ ih => exact rel_of_parent hR hparent ih

end Chain

end FileTree

namespace Workspace

variable {cwd : List String}

section Chain

variable {R : FileTree → FileTree → Prop} (hR : FileTree.KeptByMkdir R)
include hR

theorem ensure_rel (t : FileTree) (dir : String) : R t (ensure t cwd dir).1 := by
  have h := FileTree.mkdirAllKeeping_go_rel hR t cwd dir.toList
  unfold ensure FileTree.mkdirAllKeeping at *
  split <;> simp_all

theorem ensureAll_rel : ∀ (t : FileTree) (dirs : List String), R t (ensureAll t cwd dirs).1
  | t, [] => hR.refl t
  | t, dir :: rest => by
    have hdir : R t (ensure t cwd dir).1 := ensure_rel hR t dir
    unfold ensureAll
    split
    · rename_i t' h
      rw [h] at hdir
      exact hR.trans hdir (ensureAll_rel t' rest)
    · rename_i t' f h
      rw [h] at hdir
      exact hdir

end Chain

theorem ensure_failure_kind {t t' : FileTree} {dir : String} {f : Failure}
    (h : ensure t cwd dir = (t', some f)) : f.kind = .workspace := by
  unfold ensure at h
  split at h
  · cases h
  · cases h
    rfl

theorem ensureAll_failure_kind : ∀ {t t' : FileTree} {dirs : List String} {f : Failure},
    ensureAll t cwd dirs = (t', some f) → f.kind = .workspace
  | _, _, [], _, h => by cases h
  | t, _, dir :: rest, _, h => by
    unfold ensureAll at h
    split at h
    · exact ensureAll_failure_kind h
    · rename_i hensure
      cases h
      exact ensure_failure_kind hensure

/-- Setting up the workspace only adds directories. -/
theorem prepare_dirsAdded (w : Workspace) (t : FileTree) (groups : List Group) :
    t.DirsAdded (w.prepare t cwd groups).1 :=
  ensureAll_rel FileTree.DirsAdded.keptByMkdir t _

/-- Setting up the workspace puts directory nodes before the tree's own. -/
theorem prepare_dirsPrepended (w : Workspace) (t : FileTree) (groups : List Group) :
    t.DirsPrepended (w.prepare t cwd groups).1 :=
  ensureAll_rel FileTree.DirsPrepended.keptByMkdir t _

/-- A workspace that cannot be set up fails as a workspace failure. -/
theorem prepare_failure_kind {w : Workspace} {t t' : FileTree} {groups : List Group}
    {f : Failure} (h : w.prepare t cwd groups = (t', some f)) : f.kind = .workspace :=
  ensureAll_failure_kind h

end Workspace

end Regress
