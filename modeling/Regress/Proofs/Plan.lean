import Regress.Proofs.Execution
import Regress.Proofs.OctetOrder
import Regress.Proofs.Workspace

/-!
# Planning a run

Before a case runs, the suite plans: it scans each group's directory for the names of its
cases, keeps the names the name filter admits, and resolves a case for each. What a plan is
(`plan_cases_or_first_failure`):

* when every group can be scanned, the plan is the groups' cases in the order of the groups,
  and within a group one case for each admitted name, in ascending octet order
  (`Discovery.caseNames_sorted`, from `Utf8.pairwise_mergeSort_octetsLE`). A case's source is
  its name with the source suffix in the group's directory, and a file of that directory has
  the name's octets followed by the suffix's (`Discovery.caseNames_entry`);
* otherwise the plan is the failure of the first group that cannot be scanned, a discovery
  failure with the group's label in front, and the cases of the groups before it are dropped
  (`plan_of_first_failure`).

A run sets up its workspace and then plans. If either fails, it stops there
(`run_without_plan`): no case runs and nothing is printed, and the only change to the files is
the directories the workspace added (`Workspace.prepare_dirsAdded`).
-/

namespace Regress

/-- A computation whose value, read as an option, is `a` gave `a`. -/
theorem Except.eq_ok_of_toOption {ε α : Type} {e : Except ε α} {a : α}
    (h : e.toOption = some a) : e = .ok a := by
  cases e <;> simp_all [Except.toOption]

namespace FileTree

/-- The entry that a node stands for in the directory `p`, when it lies directly in it. -/
def entryIn (p : List String) (e : List String × Node) : Option (String × Node) :=
  if e.1.length = p.length + 1 ∧ e.1.take p.length = p then e.1.getLast?.map (·, e.2) else none

theorem children_eq (t : FileTree) (p : List String) :
    t.children p = (t.nodes.filterMap (entryIn p)).mergeSort fun a b => Utf8.octetsLE a.1 b.1 := by
  unfold children entryIn
  congr 2

/-- Listing a directory only sorts the entries the tree holds for it. -/
theorem children_perm (t : FileTree) (p : List String) :
    (t.children p).Perm (t.nodes.filterMap (entryIn p)) := by
  rw [children_eq]
  exact List.mergeSort_perm _ _

end FileTree

namespace Discovery

/-- An entry names a case exactly when it is a file whose name's octets are the suffix's with
more in front; the case's name is the text of those octets in front. -/
theorem caseName_eq_some {suffix : String} {entry : String × Node} {n : String} :
    caseName suffix entry = some n ↔
      (∃ content x, entry.2 = .file content x) ∧
      ∃ p, p ≠ [] ∧ Utf8.octets entry.1 = p ++ Utf8.octets suffix ∧ n = Utf8.decode p := by
  obtain ⟨e, node⟩ := entry
  cases node with
  | dir => simp [caseName]
  | file content x =>
    simp only [caseName]
    generalize Utf8.octets e = name
    generalize Utf8.octets suffix = tail
    constructor
    · intro h
      split at h
      · rename_i hcond
        cases h
        refine ⟨⟨content, x, rfl⟩, name.take (name.length - tail.length), ?_, ?_, rfl⟩
        · intro hnil
          have := congrArg List.length hnil
          simp only [List.length_take, List.length_nil] at this
          omega
        · calc name = name.take (name.length - tail.length) ++
                name.drop (name.length - tail.length) := (List.take_append_drop _ _).symm
            _ = _ := by rw [hcond.2]
      · cases h
    · rintro ⟨-, p, hp, rfl, rfl⟩
      have hlen : (p ++ tail).length - tail.length = p.length := by simp
      have hpos : 0 < p.length := List.length_pos_iff.mpr hp
      rw [if_pos ⟨by simp; omega, by rw [hlen, List.drop_left]⟩, hlen, List.take_left]

variable {t : FileTree} {cwd : List String} {suffix dir : String}

/-- Every failure to scan a directory is a discovery failure. -/
theorem caseNames_error_kind {f : Failure} (h : caseNames t cwd suffix dir = .error f) :
    f.kind = .discovery := by
  unfold caseNames at h
  dsimp only at h
  split at h
  · cases h
    rfl
  · cases h
    rfl
  · split at h
    · cases h
      rfl
    · cases h

theorem caseNames_ok {names : List String} (h : caseNames t cwd suffix dir = .ok names) :
    ∃ entries, t.readDir cwd (Path.clean dir) = .ok entries ∧
      names = (entries.filterMap (caseName suffix)).mergeSort fun a b => Utf8.octetsLE a b := by
  unfold caseNames at h
  dsimp only at h
  split at h
  · cases h
  · cases h
  · split at h
    · cases h
    · rename_i entries hread
      cases h
      exact ⟨entries, hread, rfl⟩

/-- A directory whose entries, in the order the tree holds them, name one source scans to that
one case. -/
theorem caseNames_of_unsorted_singleton (pl : Place) {n : String}
    (hloc : (t.locate cwd (Path.clean dir)).toOption = some pl) (hdir : t.get? pl.full = some .dir)
    (hone : (t.nodes.filterMap (FileTree.entryIn pl.full)).filterMap (caseName suffix) = [n]) :
    caseNames t cwd suffix dir = .ok [n] := by
  have hperm : ((t.children pl.full).filterMap (caseName suffix)).Perm [n] :=
    hone ▸ (FileTree.children_perm t pl.full).filterMap _
  simp only [caseNames, FileTree.stat, FileTree.readDir, Except.eq_ok_of_toOption hloc, hdir,
    List.perm_singleton.1 hperm, List.mergeSort_singleton]

/-- The names of a scan come in ascending octet order. -/
theorem caseNames_sorted {names : List String} (h : caseNames t cwd suffix dir = .ok names) :
    names.Pairwise fun a b => Utf8.octetsLE a b = true := by
  obtain ⟨entries, -, rfl⟩ := caseNames_ok h
  exact Utf8.pairwise_mergeSort_octetsLE _

/-- Each name of a scan is what stands before the suffix in the name of a file of the
directory. -/
theorem caseNames_entry {names : List String} (h : caseNames t cwd suffix dir = .ok names)
    {n : String} (hn : n ∈ names) :
    ∃ entries e content x p, t.readDir cwd (Path.clean dir) = .ok entries ∧
      (e, Node.file content x) ∈ entries ∧ p ≠ [] ∧
      Utf8.octets e = p ++ Utf8.octets suffix ∧ n = Utf8.decode p := by
  obtain ⟨entries, hread, rfl⟩ := caseNames_ok h
  obtain ⟨⟨e, node⟩, hmem, hname⟩ := List.mem_filterMap.mp (List.mem_mergeSort.mp hn)
  obtain ⟨⟨content, x, hnode⟩, p, hp, he, rfl⟩ := caseName_eq_some.mp hname
  cases hnode
  exact ⟨entries, e, content, x, p, hread, hmem, hp, he, rfl⟩

end Discovery

@[simp] theorem Failure.kind_wrap (context : String) (f : Failure) :
    (Failure.wrap context f).kind = f.kind := rfl

theorem NameFilter.select_sublist (pattern : String) (names : List String) :
    (NameFilter.select pattern names).Sublist names := by
  unfold NameFilter.select
  split
  · exact List.Sublist.refl names
  · exact List.filter_sublist

namespace Suite

section Plan

variable {m : Type → Type} (s : Suite m) (t : FileTree) (cwd : List String)

theorem casesOf_of_scan_ok {g : Group} {names : List String} (h : s.scan t cwd g = .ok names) :
    s.casesOf t cwd g = .ok (s.casesFor g names) := by
  unfold casesOf
  rw [h]

theorem casesOf_of_scan_error {g : Group} {f : Failure} (h : s.scan t cwd g = .error f) :
    s.casesOf t cwd g = .error (Failure.wrap ("group " ++ g.label) f) := by
  unfold casesOf
  rw [h]

theorem plan_cons (g : Group) (gs : List Group) :
    s.plan t cwd (g :: gs) =
      match s.casesOf t cwd g with
      | .error f => .error f
      | .ok cs => (s.plan t cwd gs).map (cs ++ ·) := by
  simp only [plan, List.mapM_cons]
  cases s.casesOf t cwd g with
  | error f => rfl
  | ok cs =>
    cases gs.mapM (s.casesOf t cwd) with
    | error f => rfl
    | ok css => rfl

/-- When every group is scanned, the plan is each group's cases in turn. -/
theorem plan_of_scans {names : Group → List String} : ∀ {groups : List Group},
    (∀ g ∈ groups, s.scan t cwd g = .ok (names g)) →
      s.plan t cwd groups = .ok (groups.flatMap fun g => s.casesFor g (names g))
  | [], _ => rfl
  | g :: gs, h => by
    rw [plan_cons, casesOf_of_scan_ok s t cwd (h g List.mem_cons_self),
      plan_of_scans fun g' hg' => h g' (List.mem_cons_of_mem g hg')]
    rfl

/-- The first group that cannot be scanned fails the plan, and the cases of the groups before
it are dropped. -/
theorem plan_of_first_failure {g : Group} {post : List Group} {f : Failure} :
    ∀ {pre : List Group}, (∀ g' ∈ pre, ∃ names, s.scan t cwd g' = .ok names) →
      s.scan t cwd g = .error f →
      s.plan t cwd (pre ++ g :: post) = .error (Failure.wrap ("group " ++ g.label) f)
  | [], _, hg => by
    rw [List.nil_append, plan_cons, casesOf_of_scan_error s t cwd hg]
  | g' :: pre, hpre, hg => by
    obtain ⟨names, hnames⟩ := hpre g' List.mem_cons_self
    rw [List.cons_append, plan_cons, casesOf_of_scan_ok s t cwd hnames,
      plan_of_first_failure (fun g'' h => hpre g'' (List.mem_cons_of_mem g' h)) hg]
    rfl

/-- Scanning groups in turn either reads every group or stops at a first one it cannot read. -/
theorem scans_or_first_failure : ∀ groups : List Group,
    (∀ g ∈ groups, ∃ names, s.scan t cwd g = .ok names) ∨
      ∃ pre g post f, groups = pre ++ g :: post ∧
        (∀ g' ∈ pre, ∃ names, s.scan t cwd g' = .ok names) ∧ s.scan t cwd g = .error f
  | [] => .inl (by simp)
  | g :: gs => by
    cases hg : s.scan t cwd g with
    | error f => exact .inr ⟨[], g, gs, f, rfl, by simp, hg⟩
    | ok names =>
      rcases scans_or_first_failure gs with hall | ⟨pre, g', post, f, rfl, hpre, hg'⟩
      · refine .inl fun g'' hg'' => ?_
        rcases List.mem_cons.mp hg'' with rfl | hmem
        · exact ⟨names, hg⟩
        · exact hall g'' hmem
      · refine .inr ⟨g :: pre, g', post, f, rfl, fun g'' hg'' => ?_, hg'⟩
        rcases List.mem_cons.mp hg'' with rfl | hmem
        · exact ⟨names, hg⟩
        · exact hpre g'' hmem

theorem casesFor_sorted {g : Group} {names : List String}
    (h : names.Pairwise fun a b => Utf8.octetsLE a b = true) :
    (s.casesFor g names).Pairwise fun a b => Utf8.octetsLE a.name b.name = true := by
  unfold casesFor
  rw [List.pairwise_map]
  exact h.sublist (NameFilter.select_sublist _ _)

/-- A case of a group is one of its names, its source that name with the source suffix in the
group's directory. -/
theorem mem_casesFor {g : Group} {names : List String} {c : Case} (h : c ∈ s.casesFor g names) :
    c.name ∈ names ∧
      c.source = Path.join [g.dir s.config.corpusRoot, c.name ++ s.config.sourceExt] := by
  unfold casesFor at h
  obtain ⟨n, hn, rfl⟩ := List.mem_map.mp h
  exact ⟨(NameFilter.select_sublist _ _).subset hn, rfl⟩

/-- A plan is every group's cases in turn, each group's in the octet order of its names and
each case's source a file of the group's directory; or it is the failure of the first group
that cannot be scanned, a discovery failure named after the group. -/
theorem plan_cases_or_first_failure (groups : List Group) :
    (∃ names : Group → List String,
        s.plan t cwd groups = .ok (groups.flatMap fun g => s.casesFor g (names g)) ∧
        ∀ g ∈ groups, s.scan t cwd g = .ok (names g) ∧
          (s.casesFor g (names g)).Pairwise (fun a b => Utf8.octetsLE a.name b.name = true) ∧
          ∀ c ∈ s.casesFor g (names g),
            c.source = Path.join [g.dir s.config.corpusRoot, c.name ++ s.config.sourceExt] ∧
            ∃ entries e content x p,
              t.readDir cwd (Path.clean (g.dir s.config.corpusRoot)) = .ok entries ∧
              (e, Node.file content x) ∈ entries ∧ p ≠ [] ∧
              Utf8.octets e = p ++ Utf8.octets s.config.sourceExt ∧ c.name = Utf8.decode p) ∨
      ∃ pre g post f, groups = pre ++ g :: post ∧
        (∀ g' ∈ pre, ∃ names, s.scan t cwd g' = .ok names) ∧
        s.scan t cwd g = .error f ∧ f.kind = .discovery ∧
        s.plan t cwd groups = .error (Failure.wrap ("group " ++ g.label) f) := by
  rcases s.scans_or_first_failure t cwd groups with hall | ⟨pre, g, post, f, hsplit, hpre, hg⟩
  · -- every group is read: each group's names are what its scan found
    have hnames : ∀ g ∈ groups, s.scan t cwd g = .ok ((s.scan t cwd g).toOption.getD []) := by
      intro g hg
      obtain ⟨names, h⟩ := hall g hg
      simp [h, Except.toOption]
    refine .inl ⟨_, s.plan_of_scans t cwd hnames, fun g hg => ⟨hnames g hg, ?_, fun c hc => ?_⟩⟩
    · exact s.casesFor_sorted (Discovery.caseNames_sorted (hnames g hg))
    · obtain ⟨hn, hsource⟩ := s.mem_casesFor hc
      exact ⟨hsource, Discovery.caseNames_entry (hnames g hg) hn⟩
  · refine .inr ⟨pre, g, post, f, hsplit, hpre, hg, Discovery.caseNames_error_kind hg, ?_⟩
    rw [hsplit]
    exact s.plan_of_first_failure t cwd hpre hg

end Plan

section Run

variable {σ : Type}

theorem prepare_run_of_failure (s : Suite (SessionM σ)) (groups : List Group) (S : Session σ)
    {t' : FileTree} {f : Failure} (h : s.workspace.prepare S.tree S.cwd groups = (t', some f)) :
    (s.prepare groups).run S = (.error f, { S with tree := t' }) := by
  simp [prepare, h, Session.setTree]

theorem prepare_run_of_ready (s : Suite (SessionM σ)) (groups : List Group) (S : Session σ)
    {t' : FileTree} (h : s.workspace.prepare S.tree S.cwd groups = (t', none)) :
    (s.prepare groups).run S = (s.plan t' S.cwd groups, { S with tree := t' }) := by
  simp [prepare, h, Session.setTree]

/-- Preparing leaves the session with the workspace's directories made, whether planning then
succeeds or not. -/
theorem prepare_run_snd (s : Suite (SessionM σ)) (groups : List Group) (S : Session σ) :
    ((s.prepare groups).run S).2 = { S with tree := (s.workspace.prepare S.tree S.cwd groups).1 } := by
  rcases h : s.workspace.prepare S.tree S.cwd groups with ⟨t', _ | f⟩
  · rw [prepare_run_of_ready s groups S h]
  · rw [prepare_run_of_failure s groups S h]

/-- A run whose workspace cannot be set up ends with the workspace failure; a run whose
workspace is set up but one of whose groups cannot be scanned ends with the discovery failure
of the first such group. Either way no case runs and nothing is printed: the run leaves the
session as preparing it did, with the workspace's directories added and nothing else. -/
theorem run_without_plan (s : Suite (SessionM σ)) (ctx : Context (SessionM σ))
    (groups : List Group) (S : Session σ) {t' : FileTree} {failure : Option Failure}
    (hprep : s.workspace.prepare S.tree S.cwd groups = (t', failure)) :
    S.tree.DirsAdded t' ∧
      (∀ f, failure = some f → f.kind = .workspace ∧
        (s.run ctx groups).run S = ((Outcome.empty, some f), { S with tree := t' })) ∧
      (failure = none → (∃ g ∈ groups, ∃ e, s.scan t' S.cwd g = .error e) →
        ∃ f, f.kind = .discovery ∧
          (s.run ctx groups).run S = ((Outcome.empty, some f), { S with tree := t' })) := by
  have hgrow : S.tree.DirsAdded t' := by
    have := @Workspace.prepare_dirsAdded S.cwd s.workspace S.tree groups
    rwa [hprep] at this
  refine ⟨hgrow, fun f hf => ?_, fun hnone hfails => ?_⟩
  · subst hf
    exact ⟨Workspace.prepare_failure_kind hprep,
      run_of_prepare_error (prepare_run_of_failure s groups S hprep)⟩
  · subst hnone
    obtain ⟨g, hg, e, he⟩ := hfails
    -- the plan stops at the first group that cannot be scanned, which is there
    rcases s.scans_or_first_failure t' S.cwd groups with
      hall | ⟨pre, g', post, f, hsplit, hpre, hg'⟩
    · obtain ⟨names, hnames⟩ := hall g hg
      rw [he] at hnames
      cases hnames
    · refine ⟨Failure.wrap ("group " ++ g'.label) f, ?_, run_of_prepare_error ?_⟩
      · rw [Failure.kind_wrap]
        exact Discovery.caseNames_error_kind hg'
      rw [prepare_run_of_ready s groups S hprep, hsplit, s.plan_of_first_failure t' S.cwd hpre hg']

end Run

end Suite

/-- Planning and what a run does without a plan. The plan of a list of groups is, group after
group, one case for each name that the scan of the group found and the name filter admits, in
ascending octet order, each case's source the name with the source suffix in the group's
directory, where a file has that name; or, when some group cannot be scanned, it is a
discovery failure that names the first such group, and no case. A run whose workspace cannot
be set up ends with that workspace failure, and one whose workspace is set up but some group
cannot be scanned ends with a discovery failure; neither runs a case, prints anything or
writes a file: it only adds the workspace's directories. -/
theorem plan_cases_or_failure_and_early_stops {σ : Type} (s : Suite (SessionM σ))
    (ctx : Context (SessionM σ)) (groups : List Group) (t : FileTree) (cwd : List String)
    (S : Session σ) :
    ((∃ names : Group → List String,
        s.plan t cwd groups = .ok (groups.flatMap fun g => s.casesFor g (names g)) ∧
        ∀ g ∈ groups, s.scan t cwd g = .ok (names g) ∧
          (s.casesFor g (names g)).Pairwise (fun a b => Utf8.octetsLE a.name b.name = true) ∧
          ∀ c ∈ s.casesFor g (names g),
            c.source = Path.join [g.dir s.config.corpusRoot, c.name ++ s.config.sourceExt] ∧
            ∃ entries e content x p,
              t.readDir cwd (Path.clean (g.dir s.config.corpusRoot)) = .ok entries ∧
              (e, Node.file content x) ∈ entries ∧ p ≠ [] ∧
              Utf8.octets e = p ++ Utf8.octets s.config.sourceExt ∧ c.name = Utf8.decode p) ∨
      ∃ pre g post f, groups = pre ++ g :: post ∧
        (∀ g' ∈ pre, ∃ names, s.scan t cwd g' = .ok names) ∧
        s.scan t cwd g = .error f ∧ f.kind = .discovery ∧
        s.plan t cwd groups = .error (Failure.wrap ("group " ++ g.label) f)) ∧
    ∀ t' failure, s.workspace.prepare S.tree S.cwd groups = (t', failure) →
      S.tree.DirsAdded t' ∧
      (∀ f, failure = some f → f.kind = .workspace ∧
        (s.run ctx groups).run S = ((Outcome.empty, some f), { S with tree := t' })) ∧
      (failure = none → (∃ g ∈ groups, ∃ e, s.scan t' S.cwd g = .error e) →
        ∃ f, f.kind = .discovery ∧
          (s.run ctx groups).run S = ((Outcome.empty, some f), { S with tree := t' })) :=
  ⟨s.plan_cases_or_first_failure t cwd groups,
    fun _ _ hprep => s.run_without_plan ctx groups S hprep⟩

end Regress
