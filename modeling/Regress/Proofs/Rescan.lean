import Regress.Proofs.Rewrites
import Regress.Proofs.Replanning

/-!
# Setting up and planning again on a tree that a run wrote

A run's writes put files over files, or new files under directories (`FileTree.Overwrites`), so
they keep every directory. A second run then finds every directory of the workspace made and
changes nothing in setting it up (`Workspace.ensureAll_stat`, `Workspace.ensureAll_of_stat_dir`),
and scans each group's directory as before, unless a write left in it a file named as a source
(`Discovery.caseNames_setAll`). A directory's entries after the writes are its old ones, some of
them rewritten, and the new files, sorted by name (`FileTree.filterMap_children_setAll`); what a
scan keeps of them is what it kept before, since filtering a stable sort is sorting the filtered
list (`List.filter_mergeSort`).
-/

namespace Regress

/-! ## Stable sorts and filters -/

/-- Two cuts of one list, each after a part where a test holds and before a part where it
fails, are the same cut. -/
theorem List.eq_of_append_eq_split {α : Type} {q : α → Bool} {x₁ x₂ y₁ y₂ : List α}
    (h : x₁ ++ x₂ = y₁ ++ y₂) (hx₁ : ∀ b ∈ x₁, q b) (hy₁ : ∀ b ∈ y₁, q b)
    (hx₂ : ∀ b ∈ x₂, q b = false) (hy₂ : ∀ b ∈ y₂, q b = false) : x₁ = y₁ := by
  induction x₁ generalizing y₁ with
  | nil =>
    cases y₁ with
    | nil => rfl
    | cons b y₁ =>
      -- `b` would start `x₂`, where the test fails
      have hb : b ∈ x₂ := by
        rw [List.nil_append] at h
        rw [h]
        exact List.mem_cons_self
      simp [hx₂ b hb] at hy₁
  | cons a x₁ ih =>
    cases y₁ with
    | nil =>
      have ha : a ∈ y₂ := by
        rw [List.nil_append] at h
        rw [← h]
        exact List.mem_cons_self
      simp [hy₂ a ha] at hx₁
    | cons b y₁ =>
      simp only [List.cons_append, List.cons.injEq] at h
      rw [h.1, ih h.2 (fun c hc => hx₁ c (List.mem_cons_of_mem _ hc))
        (fun c hc => hy₁ c (List.mem_cons_of_mem _ hc))]

/-- Filtering a stable sort is sorting the filtered list: the elements kept keep their order
among themselves. -/
theorem List.filter_mergeSort {α : Type} {le : α → α → Bool}
    (trans : ∀ a b c, le a b → le b c → le a c) (total : ∀ a b, le a b || le b a)
    (p : α → Bool) (l : List α) : (l.mergeSort le).filter p = (l.filter p).mergeSort le := by
  induction l with
  | nil => simp
  | cons a l ih =>
    obtain ⟨l₁, l₂, h₁, h₂, hbefore₁⟩ := List.mergeSort_cons trans total a l
    rw [h₂, List.filter_append] at ih
    by_cases hp : p a
    · obtain ⟨m₁, m₂, g₁, g₂, hbefore₂⟩ := List.mergeSort_cons trans total a (l.filter p)
      rw [g₂] at ih
      -- in both sorts `a` comes right after the elements it may not precede
      have hafter₁ : ∀ b ∈ l₂, le a b := by
        have hs := List.pairwise_mergeSort trans total (a :: l)
        rw [h₁] at hs
        exact (List.pairwise_cons.1 (List.pairwise_append.1 hs).2.1).1
      have hafter₂ : ∀ b ∈ m₂, le a b := by
        have hs := List.pairwise_mergeSort trans total (a :: l.filter p)
        rw [g₁] at hs
        exact (List.pairwise_cons.1 (List.pairwise_append.1 hs).2.1).1
      have e₁ : l₁.filter p = m₁ := List.eq_of_append_eq_split (q := fun b => !le a b) ih
        (fun b hb => hbefore₁ b (List.mem_filter.1 hb).1) hbefore₂
        (fun b hb => by simp [hafter₁ b (List.mem_filter.1 hb).1])
        (fun b hb => by simp [hafter₂ b hb])
      have e₂ : l₂.filter p = m₂ := by
        rw [e₁] at ih
        exact List.append_cancel_left ih
      rw [h₁, List.filter_cons_of_pos hp, g₁, List.filter_append, List.filter_cons_of_pos hp, e₁,
        e₂]
    · rw [h₁, List.filter_cons_of_neg hp, List.filter_append, List.filter_cons_of_neg hp, ih]

namespace FileTree

/-! ## The entries of a directory after writes -/

/-- The nodes of a tree after updates: some of the updates, in front of the tree's nodes outside
the updated paths. -/
theorem nodes_setAll (t : FileTree) (ws : List (List String × Node)) :
    ∃ front, (t.setAll ws).nodes = front ++ t.outside (ws.map Prod.fst) ∧ ∀ e ∈ front, e ∈ ws := by
  induction ws generalizing t with
  | nil => exact ⟨[], (List.filter_eq_self.2 (by simp)).symm, by simp⟩
  | cons w ws ih =>
    obtain ⟨front, hnodes, hfront⟩ := ih (t.set w.1 w.2)
    refine ⟨front ++ (if w.1 ∈ ws.map Prod.fst then [] else [w]), ?_, ?_⟩
    · rw [setAll_cons, hnodes, outside_set, List.map_cons, List.append_assoc]
    · intro e he
      rcases List.mem_append.1 he with he | he
      · exact List.mem_cons_of_mem _ (hfront e he)
      · split at he
        · cases he
        · rw [List.mem_singleton] at he
          exact he ▸ List.mem_cons_self

theorem entryIn_eq_some {p : List String} {e : List String × Node} {x : String × Node}
    (h : entryIn p e = some x) : e.1 = p ++ [x.1] ∧ e.2 = x.2 := by
  unfold entryIn at h
  split at h
  · rename_i hin
    obtain ⟨hlen, htake⟩ := hin
    obtain ⟨name, hlast, rfl⟩ := Option.map_eq_some_iff.1 h
    obtain ⟨z, hz⟩ := List.length_eq_one_iff.1 (show (e.1.drop p.length).length = 1 by simp [hlen])
    have hsplit : e.1 = p ++ [z] := by rw [← List.take_append_drop p.length e.1, htake, hz]
    rw [hsplit, List.getLast?_concat, Option.some.injEq] at hlast
    exact ⟨hlast ▸ hsplit, rfl⟩
  · cases h

/-- Scanning the nodes outside some paths lists the entries whose paths are outside them. -/
theorem filterMap_entryIn_outside (nodes : List (List String × Node)) (p : List String)
    (ps : List (List String)) :
    (nodes.filter fun e => e.1 ∉ ps).filterMap (entryIn p) =
      (nodes.filterMap (entryIn p)).filter fun x => p ++ [x.1] ∉ ps := by
  induction nodes with
  | nil => rfl
  | cons e nodes ih =>
    rcases he : entryIn p e with _ | x
    · by_cases hin : e.1 ∈ ps <;> simpa [hin, he] using ih
    · obtain ⟨hpath, -⟩ := entryIn_eq_some he
      by_cases hin : e.1 ∈ ps <;> simpa [hin, he, ← hpath] using ih

/-- Updates whose entries in a directory a scan drops leave what the scan keeps of the
directory's entries. -/
theorem filterMap_children_setAll {β : Type} (t : FileTree) (ws : List (List String × Node))
    (p : List String) (f : String × Node → Option β)
    (hdrop : ∀ q ∈ ws.map Prod.fst, ∀ name n, q = p ++ [name] → f (name, n) = none) :
    ((t.setAll ws).children p).filterMap f = (t.children p).filterMap f := by
  have htrans : ∀ a b c : String × Node, Utf8.octetsLE a.1 b.1 = true →
      Utf8.octetsLE b.1 c.1 = true → Utf8.octetsLE a.1 c.1 = true :=
    fun _ _ _ => Utf8.octetsLE_trans
  have htotal : ∀ a b : String × Node, (Utf8.octetsLE a.1 b.1 || Utf8.octetsLE b.1 a.1) = true :=
    fun a b => Utf8.octetsLE_total a.1 b.1
  obtain ⟨front, hnodes, hfront⟩ := nodes_setAll t ws
  -- the entries dropped: new files in front, and old entries at the updated paths
  have hnone : ∀ x : String × Node, p ++ [x.1] ∈ ws.map Prod.fst → f x = none :=
    fun x hx => hdrop _ hx x.1 x.2 rfl
  have hfront' : ∀ x ∈ front.filterMap (entryIn p), f x = none := by
    intro x hx
    obtain ⟨e, he, hex⟩ := List.mem_filterMap.1 hx
    obtain ⟨hpath, -⟩ := entryIn_eq_some hex
    exact hnone x (hpath ▸ List.mem_map_of_mem (hfront e he))
  have hkept : (fun x => if decide (p ++ [x.1] ∉ ws.map Prod.fst) then f x else none) = f := by
    funext x
    by_cases hx : p ++ [x.1] ∈ ws.map Prod.fst
    · simp [hx, hnone x hx]
    · simp [hx]
  rw [children_eq, hnodes, List.filterMap_append,
    List.filterMap_mergeSort_append_of_none htrans htotal f _ _ hfront', outside,
    filterMap_entryIn_outside, ← List.filter_mergeSort htrans htotal, List.filterMap_filter, hkept,
    children_eq]

theorem Ahead.stat_dir {t u : FileTree} {Z : List String → Prop} (h : Ahead t u Z)
    {cwd : List String} {p : String} (hd : t.stat cwd p = .ok .dir) : u.stat cwd p = .ok .dir := by
  obtain ⟨pl, hloc, hget⟩ := stat_dir_locate hd
  have hloc' := locate_of_dirs_kept h.1 (fun r hr => (h.dir_iff r).2 hr) hloc
  simp [stat, hloc', (h.dir_iff _).2 hget]

end FileTree

/-! ## A second scan of a group -/

namespace Discovery

theorem caseName_file (suffix name content : String) (x : Bool) :
    caseName suffix (name, .file content x) = caseName suffix (name, .file "" false) := rfl

theorem caseNames_stat {t : FileTree} {cwd : List String} {suffix dir : String}
    {names : List String} (h : caseNames t cwd suffix dir = .ok names) :
    t.stat cwd (Path.clean dir) = .ok .dir := by
  unfold caseNames at h
  dsimp only at h
  split at h
  · cases h
  · cases h
  · assumption

/-- Writes that leave no file named as a source in a group's directory leave its scan as it
was. -/
theorem caseNames_setAll {t : FileTree} {ws : List (List String × Node)}
    (hws : FileTree.Overwrites t ws) {cwd : List String} {suffix dir : String}
    (hdir : t.stat cwd (Path.clean dir) = .ok .dir)
    (hsource : ∀ q ∈ ws.map Prod.fst, ∀ name,
      q = FileTree.target cwd (Path.clean dir) ++ [name] →
        caseName suffix (name, .file "" false) = none) :
    caseNames (t.setAll ws) cwd suffix dir = caseNames t cwd suffix dir := by
  have hahead := FileTree.ahead_setAll hws
  obtain ⟨pl, hloc, hget⟩ := FileTree.stat_dir_locate hdir
  have hloc' := FileTree.locate_of_dirs_kept hahead.1 (fun r hr => (hahead.dir_iff r).2 hr) hloc
  have hget' := (hahead.dir_iff _).2 hget
  -- the new files and the rewritten ones at the directory's names are none of its cases
  have hkeep := FileTree.filterMap_children_setAll t ws pl.full (caseName suffix) (by
    intro q hq name n hname
    rw [FileTree.locate_full hloc] at hname
    cases n with
    | dir => rfl
    | file content x => rw [caseName_file]; exact hsource q hq name hname)
  simp only [caseNames, hdir, hahead.stat_dir hdir, FileTree.readDir, hloc, hloc', hget, hget',
    hkeep]

end Discovery

/-! ## Setting the workspace up again -/

namespace FileTree

theorem isDirAt_stat {t : FileTree} {cwd : List String} {p : String} (h : t.isDirAt cwd p = true) :
    t.stat cwd p = .ok .dir := by
  unfold isDirAt at h
  split at h
  · assumption
  · cases h

theorem mkdir_stat {t t' : FileTree} {cwd : List String} {p : String}
    (h : t.mkdir cwd p = .ok t') : t'.stat cwd p = .ok .dir := by
  obtain ⟨pl, n, hloc, hname, hnone, rfl⟩ := mkdir_eq h
  have hkept : ∀ r, t.get? r = some .dir → (t.set pl.full .dir).get? r = some .dir := by
    intro r hr
    have hne : r ≠ pl.full := by
      rintro rfl
      rw [hnone] at hr
      cases hr
    rw [get?_set_of_ne _ hne, hr]
  have hloc' := locate_of_dirs_kept (nameSize_set _ _ _) hkept hloc
  simp [stat, hloc', get?_set_self _ (Place.full_ne_nil hname)]

/-- Making a path's directories without a failure leaves the path a directory. -/
theorem mkdirAllKeeping_go_stat {t : FileTree} {cwd : List String} {cs : List Char}
    (h : (mkdirAllKeeping.go t cwd cs).2 = none) :
    (mkdirAllKeeping.go t cwd cs).1.stat cwd (String.ofList cs) = .ok .dir := by
  rw [mkdirAllKeeping.go] at h ⊢
  dsimp only at h ⊢
  split
  · assumption
  · rename_i hstat
    rw [hstat] at h
    cases h
  · rename_i hstat
    rw [hstat] at h
    dsimp only at h ⊢
    split
    · rename_i hparent
      rw [hparent] at h
      cases h
    · rename_i t₁ hparent
      rw [hparent] at h
      dsimp only at h ⊢
      split
      · rename_i t₂ hmade
        exact mkdir_stat hmade
      · rename_i e hfail
        rw [hfail] at h
        dsimp only at h
        split
        · rename_i hdir
          exact isDirAt_stat hdir
        · rename_i hdir
          rw [if_neg hdir] at h
          cases h

end FileTree

namespace Workspace

variable {cwd : List String}

theorem ensure_of_stat_dir {t : FileTree} {dir : String} (h : t.stat cwd dir = .ok .dir) :
    ensure t cwd dir = (t, none) := by
  unfold ensure FileTree.mkdirAllKeeping
  rw [FileTree.mkdirAllKeeping.go]
  simp [String.ofList_toList, h]

theorem ensureAll_of_stat_dir {t : FileTree} :
    ∀ {dirs : List String}, (∀ d ∈ dirs, t.stat cwd d = .ok .dir) → ensureAll t cwd dirs = (t, none)
  | [], _ => rfl
  | d :: rest, h => by
    rw [ensureAll, ensure_of_stat_dir (h d List.mem_cons_self)]
    exact ensureAll_of_stat_dir fun d' hd' => h d' (List.mem_cons_of_mem d hd')

/-- A directory that `ensure` made, or found, is there after. -/
theorem ensure_stat {t t' : FileTree} {dir : String} (h : ensure t cwd dir = (t', none)) :
    t'.stat cwd dir = .ok .dir := by
  unfold ensure FileTree.mkdirAllKeeping at h
  have hstat := @FileTree.mkdirAllKeeping_go_stat t cwd dir.toList
  rw [String.ofList_toList] at hstat
  split at h
  · rename_i t₁ hgo
    cases h
    rw [hgo] at hstat
    exact hstat rfl
  · cases h

/-- Every directory that setting up made, or found, is there after. -/
theorem ensureAll_stat : ∀ {t t' : FileTree} {dirs : List String},
    ensureAll t cwd dirs = (t', none) → ∀ d ∈ dirs, t'.stat cwd d = .ok .dir
  | _, _, [], _ => by simp
  | t, t', d :: rest, h => by
    unfold ensureAll at h
    split at h
    · rename_i t₁ hd
      intro d' hd'
      rcases List.mem_cons.1 hd' with rfl | hd'
      · -- made first, and kept by what came after, which only adds directories
        have hadd : FileTree.DirsAdded t₁ (ensureAll t₁ cwd rest).1 :=
          ensureAll_rel FileTree.DirsAdded.keptByMkdir t₁ rest
        have hpre : FileTree.DirsPrepended t₁ (ensureAll t₁ cwd rest).1 :=
          ensureAll_rel FileTree.DirsPrepended.keptByMkdir t₁ rest
        rw [h] at hadd hpre
        exact FileTree.stat_of_dirsAdded hpre.nameSize_eq hadd (ensure_stat hd)
      · exact ensureAll_stat h d' hd'
    · cases h

end Workspace

end Regress
