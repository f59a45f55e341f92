import Regress.Proofs.Plan

/-!
# Planning before and after the workspace is set up

Listing cases plans on the tree as it is; a run first sets up its workspace and plans on the
tree that leaves. Setting up only adds directories, and lists them before the tree's own nodes
(`Workspace.prepare_dirsAdded`, `Workspace.prepare_dirsPrepended`), so a scan of a group reads
the same: a path that was found is found as the same node (`FileTree.stat_of_dirsAdded`), and a
directory lists the same files, since a stable sort of its entries keeps the order of those
that are not new (`List.filterMap_mergeSort_append_of_none`). Only a group whose directory could
not be found before and can be found after scans differently
(`Discovery.caseNames_of_dirsAdded`).

So the run plans as the listing does unless the workspace made one of the groups' directories
appear (`plan_after_prepare_eq_or_group_appears`). That does happen: a group whose directory is
the output directory fails to be listed and then runs with no cases
(`output_dir_group_planned_only_after_prepare`).
-/

namespace Regress

/-- Entries put in front of a list, each dropped by `f`, change nothing of what `f` keeps of a
stable sort of the list: each of them goes to some place among the others, whose order it
keeps. -/
theorem List.filterMap_mergeSort_append_of_none {α β : Type} {le : α → α → Bool}
    (trans : ∀ a b c, le a b → le b c → le a c) (total : ∀ a b, le a b || le b a)
    (f : α → Option β) :
    ∀ (front rest : List α), (∀ a ∈ front, f a = none) →
      ((front ++ rest).mergeSort le).filterMap f = (rest.mergeSort le).filterMap f
  | [], _, _ => rfl
  | a :: front, rest, h => by
    obtain ⟨l₁, l₂, hcons, hrest, -⟩ := List.mergeSort_cons trans total a (front ++ rest)
    rw [List.cons_append, hcons, List.filterMap_append, List.filterMap_cons_none (h a (by simp)),
      ← List.filterMap_append, ← hrest,
      List.filterMap_mergeSort_append_of_none trans total f front rest
        (fun b hb => h b (List.mem_cons_of_mem a hb))]

namespace FileTree

theorem DirsAdded.get?_of_get? {t t' : FileTree} (h : t.DirsAdded t') {p : List String}
    {n : Node} (hp : t.get? p = some n) : t'.get? p = some n := by
  rcases h p with h | ⟨hn, -⟩
  · exact h.trans hp
  · rw [hp] at hn
    cases hn

section Added

variable {t t' : FileTree} (hsize : t'.nameSize = t.nameSize) (hadd : t.DirsAdded t')
  {cwd : List String} {p : String}
include hsize hadd

theorem stat_of_dirsAdded {n : Node} (h : t.stat cwd p = .ok n) : t'.stat cwd p = .ok n := by
  unfold stat at h ⊢
  cases hloc : t.locate cwd p with
  | error e => simp [hloc] at h
  | ok pl =>
    have hloc' := locate_of_dirs_kept hsize (fun _ hq => hadd.get?_of_get? hq) hloc
    simp only [hloc, hloc'] at h ⊢
    cases hget : t.get? pl.full with
    | none => simp [hget] at h
    | some m =>
      rw [hget] at h
      rw [hadd.get?_of_get? hget]
      exact h

theorem readDir_of_stat_dir (h : t.stat cwd p = .ok .dir) :
    ∃ q, t.readDir cwd p = .ok (t.children q) ∧ t'.readDir cwd p = .ok (t'.children q) := by
  obtain ⟨pl, hloc, hget⟩ := stat_dir_locate h
  refine ⟨pl.full, by simp [readDir, hloc, hget], ?_⟩
  simp [readDir, locate_of_dirs_kept hsize (fun _ hq => hadd.get?_of_get? hq) hloc,
    hadd.get?_of_get? hget]

end Added

/-- Directory nodes put in front add no case: they are directories. -/
theorem filterMap_caseName_children {t t' : FileTree} (h : t.DirsPrepended t') (suffix : String)
    (p : List String) :
    (t'.children p).filterMap (Discovery.caseName suffix) =
      (t.children p).filterMap (Discovery.caseName suffix) := by
  obtain ⟨dirs, rfl⟩ := h
  simp only [children, List.filterMap_append]
  have htrans : ∀ a b c : String × Node, Utf8.octetsLE a.1 b.1 = true →
      Utf8.octetsLE b.1 c.1 = true → Utf8.octetsLE a.1 c.1 = true :=
    fun _ _ _ => Utf8.octetsLE_trans
  have htotal : ∀ a b : String × Node, (Utf8.octetsLE a.1 b.1 || Utf8.octetsLE b.1 a.1) = true :=
    fun a b => Utf8.octetsLE_total a.1 b.1
  refine List.filterMap_mergeSort_append_of_none htrans htotal _ _ _ ?_
  intro entry hentry
  obtain ⟨⟨q, n⟩, hq, hentry⟩ := List.mem_filterMap.mp hentry
  obtain ⟨q', -, hq'⟩ := List.mem_map.mp hq
  cases hq'
  split at hentry
  · obtain ⟨name, -, rfl⟩ := Option.map_eq_some_iff.mp hentry
    rfl
  · cases hentry

end FileTree

namespace Discovery

/-- With directories added in front, a group directory scans as before, unless it could not be
found before and can be found after. -/
theorem caseNames_of_dirsAdded {t t' : FileTree} (hadd : t.DirsAdded t')
    (hpre : t.DirsPrepended t') (cwd : List String) (suffix dir : String) :
    caseNames t' cwd suffix dir = caseNames t cwd suffix dir ∨
      (∃ e, t.stat cwd (Path.clean dir) = .error e) ∧
        ∃ n, t'.stat cwd (Path.clean dir) = .ok n := by
  have hsize := hpre.nameSize_eq
  unfold caseNames
  generalize Path.clean dir = d
  dsimp only
  cases hs : t.stat cwd d with
  | error e =>
    cases hs' : t'.stat cwd d with
    | error e' => exact .inl rfl
    | ok n => exact .inr ⟨⟨e, rfl⟩, n, rfl⟩
  | ok n =>
    refine .inl ?_
    rw [FileTree.stat_of_dirsAdded hsize hadd hs]
    cases n with
    | file c x => rfl
    | dir =>
      obtain ⟨q, hr, hr'⟩ := FileTree.readDir_of_stat_dir hsize hadd hs
      simp only [hr, hr', FileTree.filterMap_caseName_children hpre]

end Discovery

namespace Suite

variable {m : Type → Type} (s : Suite m)

theorem casesOf_congr {t t' : FileTree} {cwd : List String} {g : Group}
    (h : s.scan t' cwd g = s.scan t cwd g) : s.casesOf t' cwd g = s.casesOf t cwd g := by
  unfold casesOf
  rw [h]

theorem plan_congr {t t' : FileTree} {cwd : List String} {groups : List Group}
    (h : ∀ g ∈ groups, s.scan t' cwd g = s.scan t cwd g) :
    s.plan t' cwd groups = s.plan t cwd groups := by
  induction groups with
  | nil => simp [plan]
  | cons g gs ih =>
    rw [plan_cons s t' cwd g gs, plan_cons s t cwd g gs, casesOf_congr s (h g List.mem_cons_self),
      ih fun g' hg' => h g' (List.mem_cons_of_mem g hg')]

/-- On a tree with directories added in front, a plan is the plan before, unless some group's
directory could not be found before and can be found after. -/
theorem plan_of_dirsAdded {t t' : FileTree} (hadd : t.DirsAdded t') (hpre : t.DirsPrepended t')
    (cwd : List String) (groups : List Group) :
    s.plan t' cwd groups = s.plan t cwd groups ∨
      ∃ g ∈ groups, (∃ e, t.stat cwd (Path.clean (g.dir s.config.corpusRoot)) = .error e) ∧
        ∃ n, t'.stat cwd (Path.clean (g.dir s.config.corpusRoot)) = .ok n := by
  by_cases hdiff : ∃ g ∈ groups, s.scan t' cwd g ≠ s.scan t cwd g
  · obtain ⟨g, hg, hne⟩ := hdiff
    rcases Discovery.caseNames_of_dirsAdded hadd hpre cwd s.config.sourceExt
      (g.dir s.config.corpusRoot) with heq | happears
    · exact absurd heq hne
    · exact .inr ⟨g, hg, happears⟩
  · refine .inl (plan_congr s fun g hg => ?_)
    exact Classical.byContradiction fun hne => hdiff ⟨g, hg, hne⟩

end Suite

/-- A run whose workspace was set up plans what listing the cases plans on the tree before,
unless setting up made the directory of one of the groups appear. -/
theorem plan_after_prepare_eq_or_group_appears {σ : Type} (s : Suite (SessionM σ))
    (S : Session σ) (groups : List Group)
    (hready : (s.workspace.prepare S.tree S.cwd groups).2 = none) :
    ((s.prepare groups).run S).1 = s.plan S.tree S.cwd groups ∨
      ∃ g ∈ groups,
        (∃ e, S.tree.stat S.cwd (Path.clean (g.dir s.config.corpusRoot)) = .error e) ∧
        ∃ n, ((s.prepare groups).run S).2.tree.stat S.cwd
          (Path.clean (g.dir s.config.corpusRoot)) = .ok n := by
  rcases hprep : s.workspace.prepare S.tree S.cwd groups with ⟨t', _ | f⟩
  · have hadd := @Workspace.prepare_dirsAdded S.cwd s.workspace S.tree groups
    have hpre := @Workspace.prepare_dirsPrepended S.cwd s.workspace S.tree groups
    rw [hprep] at hadd hpre
    rw [Suite.prepare_run_of_ready s groups S hprep]
    exact s.plan_of_dirsAdded hadd hpre S.cwd groups
  · rw [hprep] at hready
    cases hready

/-- A session whose tree holds the corpus directory and nothing else. -/
def bareCorpusSession : Session Unit :=
  ⟨{ nodes := [(["corpus"], .dir)] }, [], "", "", [], ()⟩

/-- A suite over the corpus `corpus` that writes its transcripts into `outputDir`. -/
def listingSuite (outputDir : String) : Suite (SessionM Unit) where
  config := { Config.defaults with corpusRoot := "corpus", outputDir }
  runner c := pure ⟨c, .success, 0, none, none⟩
  reporter := Console.reporter

/-- A corpus of one group, `p`, with one case, `a`, and its input. -/
def oneGroupSession : Session Unit :=
  ⟨{ nodes := [(["corpus"], .dir), (["corpus", "p"], .dir),
      (["corpus", "p", "a.lama"], .file "x" false), (["corpus", "p", "a.input"], .file "" false)] },
    [], "", "", [], ()⟩

/-- The group `p` lists its one source before and after its output directory is made in it. -/
theorem oneGroup_scan (t : FileTree) (ht : (t.locate [] "corpus/p").toOption =
      some ⟨["corpus"], some "p", false⟩) (hdir : t.get? ["corpus", "p"] = some .dir)
    (hone : (t.nodes.filterMap (FileTree.entryIn ["corpus", "p"])).filterMap
      (Discovery.caseName ".lama") = ["a"]) :
    (listingSuite "corpus/p/logs").plan t [] [⟨"p"⟩] =
      .ok [Case.resolve "corpus" ⟨"p"⟩ "a" Config.defaults.layout "corpus/p/logs" "."] := by
  have hscan : (listingSuite "corpus/p/logs").scan t [] ⟨"p"⟩ = .ok ["a"] :=
    Discovery.caseNames_of_unsorted_singleton _ ht hdir hone
  rw [@Suite.plan_of_scans _ _ t [] (fun _ => ["a"]) _ (by simpa using hscan)]
  exact congrArg Except.ok (by decide +kernel)

/-- The run over the group `p` makes its output directory inside the group's directory, and
plans the case that listing plans. -/
theorem out_dir_prepared_plan :
    let s := listingSuite "corpus/p/logs"
    let S := oneGroupSession
    let a := Case.resolve "corpus" ⟨"p"⟩ "a" Config.defaults.layout "corpus/p/logs" "."
    (s.workspace.prepare S.tree S.cwd [⟨"p"⟩]).2 = none ∧
      (((s.prepare [⟨"p"⟩]).run S).1 = s.plan S.tree S.cwd [⟨"p"⟩] ∨
        ∃ g ∈ [(⟨"p"⟩ : Group)],
          (∃ e, S.tree.stat S.cwd (Path.clean (g.dir s.config.corpusRoot)) = .error e) ∧
          ∃ n, ((s.prepare [⟨"p"⟩]).run S).2.tree.stat S.cwd
            (Path.clean (g.dir s.config.corpusRoot)) = .ok n) ∧
      (S.tree.stat S.cwd "corpus/p/logs").toOption = none ∧
      (((s.prepare [⟨"p"⟩]).run S).2.tree.stat S.cwd "corpus/p/logs").toOption = some .dir ∧
      s.plan S.tree S.cwd [⟨"p"⟩] = .ok [a] ∧ ((s.prepare [⟨"p"⟩]).run S).1 = .ok [a] := by
  intro s S a
  have hready : (s.workspace.prepare S.tree S.cwd [⟨"p"⟩]).2 = none := by
    decide +kernel
  have hprep := Suite.prepare_run_of_ready s [⟨"p"⟩] S (Prod.ext rfl hready)
  -- both trees hold the one source of `p`
  have hbefore : s.plan S.tree S.cwd [⟨"p"⟩] = .ok [a] :=
    oneGroup_scan _ (by decide +kernel) (by decide +kernel) (by decide +kernel)
  have hafter : ((s.prepare [⟨"p"⟩]).run S).1 = .ok [a] := by
    rw [hprep]
    exact oneGroup_scan _ (by decide +kernel) (by decide +kernel) (by decide +kernel)
  refine ⟨hready, plan_after_prepare_eq_or_group_appears s S [⟨"p"⟩] hready, by decide +kernel,
    ?_, hbefore, hafter⟩
  rw [hprep]
  decide +kernel

/-- The group `logs` of a run whose output directory is `corpus/logs` cannot be listed, as its
directory is missing, but the run makes that directory first and then plans no case for it. -/
theorem output_dir_group_planned_only_after_prepare :
    (listingSuite "corpus/logs").plan bareCorpusSession.tree [] [⟨"logs"⟩] =
        .error (Failure.wrap "group logs"
          (Failure.discovery "test path does not exist: corpus/logs")) ∧
      (((listingSuite "corpus/logs").prepare [⟨"logs"⟩]).run bareCorpusSession).1 = .ok [] := by
  exact ⟨rfl, Except.eq_ok_of_toOption (by decide +kernel)⟩

end Regress
