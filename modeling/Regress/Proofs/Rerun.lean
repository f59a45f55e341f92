import Regress.Proofs.TextTools
import Regress.Proofs.Setup

/-!
# Running a suite again on the tree it left

A suite run with text tools (`TextTools.suite`), run a second time on the tree the first run
left, does what the first run did: the same tally and failure, the same reports and progress
marks, the same calls to the tools, and the same tree at the end (`TextTools.run_again_eq`). It
needs the first run to set its workspace up, and of the cases that it plans
(`TextTools.Rerunnable`): the compiler leaves each artifact where its case looks for it, cases
that share an artifact share their source, no case writes its transcript over the artifact of a
case before it, no case writes a file that a case reads or goes through, and no case writes a
file named as a source into a group's directory.

The second run finds the workspace set up and plans the same cases (`Workspace.ensureAll_stat`,
`Discovery.caseNames_setAll`). It then runs them beside the first run, case by case
(`TextTools.executeFrom_ahead`): before each case, the second run's tree is the first run's with
the writes that the first run makes later already made (`FileTree.Ahead`). The case reads none
of those paths, and a case whose compiler fails reads an artifact that no later case writes, so
the case runs as it did the first time and makes the same writes (`TextTools.caseRun_congr`).
At the end both runs have made the same writes, and making them twice is making them once
(`FileTree.setAll_setAll`).

Without the third condition a run need not repeat: with artifacts named like transcripts, the
transcript of a case can be the artifact of an earlier case whose compiler fails
(`later_transcript_read_as_artifact_on_rerun`).
-/

namespace Regress

namespace TextTools

variable (tt : TextTools)

/-- The suite that runs the cases with the tools under `config`, reports on the console, and
moves the session's progress display when `display` is set. -/
def suite (config : Config) (display : Bool) : Suite (SessionM CallLog) where
  config
  runner := Runner.run tt.toolchain config.timeout
  reporter := Console.reporter
  progress := if display then some Session.progressDisplay else none

end TextTools

/-- The session after the case `c` ran from `A` as `r` and was reported, with the progress
display, when it is shown, moved to the tally `o`. -/
def Session.afterCase (A : Session CallLog) (display : Bool) (c : Case) (r : CaseRun)
    (o : Outcome) : Session CallLog :=
  { A with
    tree := A.tree.setAll r.updates
    out := A.out ++ Console.started c ++ Console.finished r.result
    progress := A.progress ++ if display then [.counts o.succeeded (o.total - o.succeeded)] else []
    tools := { compiles := A.tools.compiles ++ [(c.source, c.artifactDir)]
               runs := A.tools.runs ++ if r.interpreted then [c.artifact] else [] } }

namespace TextTools

variable (tt : TextTools) (config : Config) (display : Bool)

open FileTree

/-- One step of a run: the first case runs from the session's tree and is reported, and the run
stops there or goes on with the others. -/
theorem executeFrom_cons (c : Case) (rest : List Case) (o : Outcome) (A : Session CallLog) :
    ((tt.suite config display).executeFrom .background (c :: rest) o).run A =
      let r := tt.caseRun A.tree A.cwd c
      let o' := o.record r.result
      if !r.result.passed && config.stopOnFirstFailure then ((o'.abort, none), A.afterCase display c r o')
      else ((tt.suite config display).executeFrom .background rest o').run (A.afterCase display c r o') := by
  cases display <;>
    simp [Suite.executeFrom, Context.background, suite, Console.reporter, Session.print,
      Session.progressDisplay, Session.mark, run_caseRun, Session.afterCase]
  all_goals split <;> rfl

/-- The paths that the cases may write, run one after the other from the tree `t`: each case's
actual transcript, and its artifact when it compiles on `t`. -/
def mayWrite (t : FileTree) (cwd : List String) (cases : List Case) : List (List String) :=
  cases.flatMap fun c =>
    if (tt.compiled t cwd c.source c.artifactDir).1 = none then c.written cwd
    else [target cwd c.actual]

theorem mayWrite_cons (t : FileTree) (cwd : List String) (c : Case) (rest : List Case) :
    tt.mayWrite t cwd (c :: rest) =
      (if (tt.compiled t cwd c.source c.artifactDir).1 = none then c.written cwd
        else [target cwd c.actual]) ++ tt.mayWrite t cwd rest := rfl

theorem written_of_mem_mayWrite {t : FileTree} {cwd : List String} {cases : List Case}
    {q : List String} (h : q ∈ tt.mayWrite t cwd cases) : ∃ c ∈ cases, q ∈ c.written cwd := by
  obtain ⟨c, hc, hq⟩ := List.mem_flatMap.1 h
  refine ⟨c, hc, ?_⟩
  split at hq
  · exact hq
  · rw [List.mem_singleton] at hq
    simp [Case.written, hq]

/-- What a second run needs of the cases that a run plans, seen from its working directory
`cwd`, and of its configuration and groups. -/
structure Rerunnable (config : Config) (groups : List Group) (cwd : List String)
    (cases : List Case) : Prop where
  /-- The compiler leaves each case's artifact where the case looks for it. -/
  artifactPath_eq : ∀ c ∈ cases, tt.artifactPath c.source c.artifactDir = c.artifact
  /-- Cases that share an artifact share their source and the artifact's path. -/
  shared_artifact : ∀ c ∈ cases, ∀ c' ∈ cases, target cwd c.artifact = target cwd c'.artifact →
    c.source = c'.source ∧ c.artifact = c'.artifact
  /-- No case writes its transcript over the artifact of a case before it. -/
  fresh_artifacts : cases.Pairwise fun c c' => target cwd c'.actual ≠ target cwd c.artifact
  /-- No case writes a file that a case reads or goes through. -/
  apart : ∀ c ∈ cases, ∀ c' ∈ cases, ∀ q ∈ c.written cwd, q ∉ c'.consulted cwd
  /-- No case writes a file named as a source into the directory of a group. -/
  no_new_sources : ∀ c ∈ cases, ∀ q ∈ c.written cwd, ∀ g ∈ groups,
    q.dropLast = target cwd (Path.clean (g.dir config.corpusRoot)) →
      ∀ name ∈ q.getLast?, Discovery.caseName config.sourceExt (name, .file "" false) = none

variable {tt config} {groups : List Group}

theorem Rerunnable.nil {cwd : List String} : tt.Rerunnable config groups cwd [] where
  artifactPath_eq _ h := absurd h List.not_mem_nil
  shared_artifact _ h := absurd h List.not_mem_nil
  fresh_artifacts := .nil
  apart _ h := absurd h List.not_mem_nil
  no_new_sources _ h := absurd h List.not_mem_nil

theorem Rerunnable.tail {cwd : List String} {c : Case} {rest : List Case}
    (h : tt.Rerunnable config groups cwd (c :: rest)) : tt.Rerunnable config groups cwd rest where
  artifactPath_eq c' hc' := h.artifactPath_eq c' (List.mem_cons_of_mem c hc')
  shared_artifact c₁ h₁ c₂ h₂ := h.shared_artifact c₁ (List.mem_cons_of_mem c h₁) c₂
    (List.mem_cons_of_mem c h₂)
  fresh_artifacts := h.fresh_artifacts.of_cons
  apart c₁ h₁ c₂ h₂ := h.apart c₁ (List.mem_cons_of_mem c h₁) c₂ (List.mem_cons_of_mem c h₂)
  no_new_sources c' hc' := h.no_new_sources c' (List.mem_cons_of_mem c hc')

/-- What the cases may write does not change with writes at paths that they do not read or go
through. -/
theorem mayWrite_congr {t u : FileTree} {Z : List String → Prop} (h : Ahead t u Z)
    {cwd : List String} {cases : List Case}
    (hconsulted : ∀ c ∈ cases, ∀ q ∈ c.consulted cwd, ¬ Z q)
    (hpath : ∀ c ∈ cases, tt.artifactPath c.source c.artifactDir = c.artifact) :
    tt.mayWrite u cwd cases = tt.mayWrite t cwd cases := by
  induction cases with
  | nil => rfl
  | cons c rest ih =>
    rw [mayWrite_cons, mayWrite_cons,
      tt.compiled_congr_case h (hconsulted c List.mem_cons_self) (hpath c List.mem_cons_self),
      ih (fun c' hc' => hconsulted c' (List.mem_cons_of_mem c hc'))
        (fun c' hc' => hpath c' (List.mem_cons_of_mem c hc'))]

variable (tt config)

/-- What the first run of the cases writes: updates made in order, each a write over what was
there, at paths the cases may write. -/
theorem executeFrom_writes {cases : List Case} {A : Session CallLog}
    (hre : tt.Rerunnable config groups A.cwd cases) (o : Outcome) :
    ∃ W, (((tt.suite config display).executeFrom .background cases o).run A).2.tree =
        A.tree.setAll W ∧ Overwrites A.tree W ∧ ∀ w ∈ W, w.1 ∈ tt.mayWrite A.tree A.cwd cases := by
  induction cases generalizing A o with
  | nil =>
    refine ⟨[], ?_, trivial, by simp⟩
    simp [Suite.executeFrom, suite, Console.reporter, Session.print]
  | cons c rest ih =>
    have hpath := hre.artifactPath_eq c List.mem_cons_self
    have hcase : ∀ w ∈ (tt.caseRun A.tree A.cwd c).updates,
        w.1 ∈ c.written A.cwd ∧ w.1 ∈ tt.mayWrite A.tree A.cwd (c :: rest) := by
      intro w hw
      rw [mayWrite_cons]
      rcases tt.caseRun_paths hpath hw with hact | ⟨hart, hok⟩
      · refine ⟨by simp [Case.written, hact], List.mem_append_left _ ?_⟩
        split <;> simp [Case.written, hact]
      · refine ⟨by simp [Case.written, hart], List.mem_append_left _ ?_⟩
        simp [hok, Case.written, hart]
    rw [executeFrom_cons]
    dsimp only
    split
    · exact ⟨_, rfl, tt.caseRun_overwrites c, fun w hw => (hcase w hw).2⟩
    · obtain ⟨W, hW, hover, hmay⟩ := ih hre.tail (A := A.afterCase display c _ _) _
      refine ⟨_ ++ W, by rw [hW, setAll_append]; rfl,
        overwrites_append.2 ⟨tt.caseRun_overwrites c, hover⟩, fun w hw => ?_⟩
      rcases List.mem_append.1 hw with hw | hw
      · exact (hcase w hw).2
      · -- the later cases may write what they could before this case wrote
        have hsame : tt.mayWrite (A.tree.setAll (tt.caseRun A.tree A.cwd c).updates) A.cwd rest =
            tt.mayWrite A.tree A.cwd rest :=
          mayWrite_congr (ahead_setAll (tt.caseRun_overwrites c))
          (fun c' hc' q hq hz => by
            obtain ⟨w', hw', rfl⟩ := List.mem_map.1 hz
            exact hre.apart c List.mem_cons_self c' (List.mem_cons_of_mem c hc') _
              (hcase w' hw').1 hq)
          (fun c' hc' => hre.artifactPath_eq c' (List.mem_cons_of_mem c hc'))
        have hw' := hmay w hw
        simp only [Session.afterCase] at hw'
        rw [hsame] at hw'
        rw [mayWrite_cons]
        exact List.mem_append_right _ hw'

theorem compiled_eq_of_artifactPath {t : FileTree} {cwd : List String} {source dir dir' : String}
    (h : tt.artifactPath source dir = tt.artifactPath source dir') :
    tt.compiled t cwd source dir = tt.compiled t cwd source dir' := by
  simp only [compiled, h]

/-- A case whose compiler fails on `t` reads an artifact that none of the cases may write from `t`,
unless its own transcript is that artifact: a later case that compiles into the same artifact has
the same source, and so fails to compile too, and no transcript is written over the artifact of
an earlier case. -/
theorem artifact_not_mem_mayWrite {t : FileTree} {cwd : List String} {c : Case}
    {rest : List Case} (hre : tt.Rerunnable config groups cwd (c :: rest))
    (hfails : (tt.compiled t cwd c.source c.artifactDir).1 ≠ none)
    (hsame : target cwd c.actual ≠ target cwd c.artifact) :
    target cwd c.artifact ∉ tt.mayWrite t cwd (c :: rest) := by
  intro hm
  rw [mayWrite_cons, if_neg hfails] at hm
  rcases List.mem_append.1 hm with hm | hm
  · exact hsame (List.mem_singleton.1 hm).symm
  obtain ⟨c', hc', hq'⟩ := List.mem_flatMap.1 hm
  have hfresh : target cwd c'.actual ≠ target cwd c.artifact :=
    List.rel_of_pairwise_cons hre.fresh_artifacts hc'
  split at hq'
  · rename_i hok'
    simp only [Case.written, List.mem_cons, List.not_mem_nil, or_false] at hq'
    rcases hq' with hq' | hq'
    · -- a later case writes the artifact: it has the same source, and fails to compile
      obtain ⟨hsrc, hartEq⟩ := hre.shared_artifact c List.mem_cons_self c'
        (List.mem_cons_of_mem c hc') hq'
      have hpaths : tt.artifactPath c'.source c'.artifactDir =
          tt.artifactPath c'.source c.artifactDir := by
        rw [hre.artifactPath_eq c' (List.mem_cons_of_mem c hc'), ← hsrc,
          hre.artifactPath_eq c List.mem_cons_self, hartEq]
      rw [tt.compiled_eq_of_artifactPath hpaths, ← hsrc] at hok'
      exact hfails hok'
    · exact hfresh hq'.symm
  · exact hfresh (List.mem_singleton.1 hq').symm

/-- The second run, from a tree ahead of the first run's at the paths where the first run has
still to write, runs the cases as the first run did and makes the same writes. -/
theorem executeFrom_ahead {cases : List Case} {A : Session CallLog}
    (hre : tt.Rerunnable config groups A.cwd cases)
    (hslash : ∀ c ∈ cases, c.actual.toList.getLast? = some '/' → target A.cwd c.actual = [])
    (o : Outcome) (U : FileTree)
    (hU : Ahead A.tree U fun q => A.tree.get? q ≠
      (((tt.suite config display).executeFrom .background cases o).run A).2.tree.get? q) :
    ∃ W, (((tt.suite config display).executeFrom .background cases o).run A).2.tree =
        A.tree.setAll W ∧
      ((tt.suite config display).executeFrom .background cases o).run { A with tree := U } =
        ((((tt.suite config display).executeFrom .background cases o).run A).1,
          { (((tt.suite config display).executeFrom .background cases o).run A).2 with
              tree := U.setAll W }) := by
  induction cases generalizing A o U with
  | nil =>
    refine ⟨[], ?_, ?_⟩ <;> simp [Suite.executeFrom, suite, Console.reporter, Session.print]
  | cons c rest ih =>
    obtain ⟨W₀, hW₀, -, hmay₀⟩ := tt.executeFrom_writes config display hre o (A := A)
    generalize hF : (((tt.suite config display).executeFrom .background (c :: rest) o).run A) = F
      at hU hW₀
    have hZ : ∀ q, A.tree.get? q ≠ F.2.tree.get? q → q ∈ tt.mayWrite A.tree A.cwd (c :: rest) := by
      intro q hq
      refine Classical.byContradiction fun hm => hq ?_
      rw [hW₀, get?_setAll_of_not_mem]
      rintro hmem
      obtain ⟨w, hw, rfl⟩ := List.mem_map.1 hmem
      exact hm (hmay₀ w hw)
    have hconsulted : ∀ q ∈ c.consulted A.cwd, ¬ (A.tree.get? q ≠ F.2.tree.get? q) := by
      intro q hq hz
      obtain ⟨c', hc', hq'⟩ := tt.written_of_mem_mayWrite (hZ q hz)
      exact hre.apart c' hc' c List.mem_cons_self q hq' hq
    -- a case whose compiler fails reads an artifact that no case writes after it
    have hart : (tt.compiled A.tree A.cwd c.source c.artifactDir).1 = none ∨
        target A.cwd c.actual = target A.cwd c.artifact ∨
        ¬ (A.tree.get? (target A.cwd c.artifact) ≠ F.2.tree.get? (target A.cwd c.artifact)) := by
      by_cases hok : (tt.compiled A.tree A.cwd c.source c.artifactDir).1 = none
      · exact .inl hok
      by_cases hsame : target A.cwd c.actual = target A.cwd c.artifact
      · exact .inr (.inl hsame)
      exact .inr (.inr fun hz => tt.artifact_not_mem_mayWrite config hre hok hsame (hZ _ hz))
    have hrun := tt.caseRun_congr hU hconsulted (hre.artifactPath_eq c List.mem_cons_self)
      (hslash c List.mem_cons_self) hart
    rw [executeFrom_cons] at hF ⊢
    dsimp only at hF ⊢
    rw [hrun]
    have hover : Overwrites A.tree (tt.caseRun A.tree A.cwd c).updates := tt.caseRun_overwrites c
    generalize tt.caseRun A.tree A.cwd c = r at hF hover
    have hafter : ∀ o', ({ A with tree := U } : Session CallLog).afterCase display c r o' =
        { A.afterCase display c r o' with tree := U.setAll r.updates } := fun _ => rfl
    by_cases hstop : (!r.result.passed && config.stopOnFirstFailure) = true
    · rw [if_pos hstop] at hF ⊢
      subst hF
      exact ⟨r.updates, rfl, rfl⟩
    · rw [if_neg hstop] at hF ⊢
      rw [hafter]
      -- past the case, the second run's tree is still ahead where the first has to write
      have hU' : Ahead (A.afterCase display c r (o.record r.result)).tree (U.setAll r.updates)
          fun q => (A.afterCase display c r (o.record r.result)).tree.get? q ≠ F.2.tree.get? q := by
        refine (hU.setAll_both hover).mono ?_
        rintro q ⟨hq, hz⟩
        simpa only [Session.afterCase, get?_setAll_of_not_mem hq] using hz
      rw [← hF] at hU'
      obtain ⟨W, hW, heq⟩ := ih (A := A.afterCase display c r (o.record r.result)) hre.tail
        (fun c' hc' => hslash c' (List.mem_cons_of_mem c hc')) _ (U.setAll r.updates) hU'
      rw [hF] at hW heq
      refine ⟨r.updates ++ W, ?_, ?_⟩
      · rw [hW, setAll_append]
        rfl
      · rw [heq, setAll_append]

end TextTools

theorem FileTree.Ahead.differs {t u : FileTree} {Z : List String → Prop} (h : Ahead t u Z) :
    Ahead t u fun q => t.get? q ≠ u.get? q := by
  refine ⟨h.nameSize_eq, h.closeFaults_eq, fun q => ?_⟩
  by_cases heq : u.get? q = t.get? q
  · exact .inl heq
  · exact .inr ⟨fun h' => heq h'.symm, ((h.agree q).resolve_left heq).2⟩

namespace Suite

variable {σ : Type}

/-- A run whose workspace is set up runs the cases it plans on the tree it set up, or stops
with the failure to plan. -/
theorem run_of_ready (s : Suite (SessionM σ)) (ctx : Context (SessionM σ)) (groups : List Group)
    (S : Session σ) {P : FileTree} (h : s.workspace.prepare S.tree S.cwd groups = (P, none)) :
    (s.run ctx groups).run S =
      match s.plan P S.cwd groups with
      | .error f => ((Outcome.empty, some f), { S with tree := P })
      | .ok cases => (s.execute ctx cases).run { S with tree := P } := by
  simp only [run, StateT.run_bind, prepare_run_of_ready s groups S h, id_bind_eq]
  cases s.plan P S.cwd groups <;> rfl

theorem run_of_failure (s : Suite (SessionM σ)) (ctx : Context (SessionM σ)) (groups : List Group)
    (S : Session σ) {P : FileTree} {f : Failure}
    (h : s.workspace.prepare S.tree S.cwd groups = (P, some f)) :
    (s.run ctx groups).run S = ((Outcome.empty, some f), { S with tree := P }) := by
  simp only [run, StateT.run_bind, prepare_run_of_failure s groups S h, id_bind_eq]
  rfl

/-- The transcript of a planned case is in the output directory, named after the case. -/
theorem actual_of_plan {m : Type → Type} {s : Suite m} {t : FileTree} {cwd : List String}
    {groups : List Group} {cases : List Case} (h : s.plan t cwd groups = .ok cases) :
    ∀ c ∈ cases, c.actual = Path.join [s.workspace.outputDir, c.name ++ s.config.logExt] := by
  rcases s.plan_cases_or_first_failure t cwd groups with ⟨names, hplan, -⟩ |
    ⟨pre, g, post, f, -, -, -, -, hfail⟩
  · rw [hplan] at h
    cases h
    intro c hc
    obtain ⟨g, -, hc⟩ := List.mem_flatMap.1 hc
    obtain ⟨n, -, rfl⟩ := List.mem_map.1 hc
    rfl
  · rw [hfail] at h
    cases h

end Suite

namespace TextTools

variable (tt : TextTools)

open FileTree

/-- A suite run with text tools whose workspace is set up, run again on the tree it left, does
what it did when the cases it plans can be run again. -/
theorem rerun_of_ready (config : Config) (display : Bool) (groups : List Group)
    (S : Session CallLog)
    (hready : ((tt.suite config display).workspace.prepare S.tree S.cwd groups).2 = none)
    (hcases : ∀ cases, (tt.suite config display).plan
        ((tt.suite config display).workspace.prepare S.tree S.cwd groups).1 S.cwd groups =
          .ok cases → tt.Rerunnable config groups S.cwd cases) :
    ((tt.suite config display).run .background groups).run
        { S with tree := (((tt.suite config display).run .background groups).run S).2.tree } =
      ((tt.suite config display).run .background groups).run S := by
  obtain ⟨P, hprep⟩ : ∃ P, (tt.suite config display).workspace.prepare S.tree S.cwd groups =
      (P, none) := ⟨_, Prod.ext rfl hready⟩
  rw [hprep] at hcases
  have hdirs := Workspace.ensureAll_stat hprep
  rw [Suite.run_of_ready _ _ _ _ hprep]
  rcases hplan : (tt.suite config display).plan P S.cwd groups with f | cases
  · -- nothing runs: setting up and planning again change nothing
    rw [Suite.run_of_ready _ _ _ _ (Workspace.ensureAll_of_stat_dir hdirs)]
    dsimp only
    rw [hplan]
  · have hre := hcases cases hplan
    obtain ⟨W, hF, hover, hmay⟩ := tt.executeFrom_writes config display hre Outcome.empty
      (A := { S with tree := P })
    have hahead := ahead_setAll hover
    -- the second run finds the workspace set up, and plans the same cases
    have hscans : ∀ g ∈ groups, ∃ names, (tt.suite config display).scan P S.cwd g = .ok names := by
      rcases (tt.suite config display).scans_or_first_failure P S.cwd groups with
        hall | ⟨pre, g, post, f, hsplit, hpre, hg⟩
      · exact hall
      · rw [hsplit, Suite.plan_of_first_failure _ _ _ hpre hg] at hplan
        cases hplan
    have hplan' : (tt.suite config display).plan (P.setAll W) S.cwd groups = .ok cases := by
      rw [← hplan]
      refine Suite.plan_congr _ fun g hg => ?_
      obtain ⟨names, hnames⟩ := hscans g hg
      refine Discovery.caseNames_setAll hover (Discovery.caseNames_stat hnames) ?_
      intro q hq name hname
      obtain ⟨w, hw, rfl⟩ := List.mem_map.1 hq
      obtain ⟨c, hc, hqc⟩ := tt.written_of_mem_mayWrite (hmay w hw)
      rw [hname] at hqc
      exact hre.no_new_sources c hc _ hqc g hg List.dropLast_concat name List.getLast?_concat
    have hready' : (tt.suite config display).workspace.prepare (P.setAll W) S.cwd groups =
        (P.setAll W, none) :=
      Workspace.ensureAll_of_stat_dir fun d hd => hahead.stat_dir (hdirs d hd)
    dsimp only at hF ⊢
    have htree : (((tt.suite config display).execute .background cases).run
        { S with tree := P }).2.tree = P.setAll W := by
      rw [← hF]
      cases display <;> simp [Suite.execute, suite, Session.progressDisplay, Session.mark]
    rw [htree, Suite.run_of_ready _ _ _ { S with tree := P.setAll W } hready', hplan']
    dsimp only
    have hslash : ∀ c ∈ cases, c.actual.toList.getLast? = some '/' → target S.cwd c.actual = [] :=
      fun c hc => by
        rw [Suite.actual_of_plan hplan c hc]
        exact target_join_of_slash _ _
    obtain ⟨W', hF', hsame⟩ := tt.executeFrom_ahead config display (A := { S with tree := P }) hre
      hslash Outcome.empty (P.setAll W) (by rw [hF]; exact hahead.differs)
    -- both runs make the same writes, and making them twice is making them once
    have hfinal : (P.setAll W).setAll W' = (((tt.suite config display).executeFrom .background cases
        Outcome.empty).run { S with tree := P }).2.tree := by
      rw [hF', ← hF, hF', setAll_setAll]
    rw [hfinal] at hsame
    simp only [Suite.execute, StateT.run_bind]
    rw [hsame]
    rfl

/-- A suite run with text tools, run again on the tree the first run left, gives the same tally
and failure, prints the same, moves the progress display the same way, calls the tools the same
way and leaves the same tree, when the first run sets its workspace up and the cases it plans
can be run again. In a tree a file system has, a run whose workspace cannot be set up repeats
too, but for the text of its workspace failure: the setup fails again and makes nothing. -/
theorem run_again_eq (config : Config) (display : Bool) (groups : List Group)
    (S : Session CallLog)
    (hcases : ∀ cases, (tt.suite config display).plan
        ((tt.suite config display).workspace.prepare S.tree S.cwd groups).1 S.cwd groups =
          .ok cases → tt.Rerunnable config groups S.cwd cases) :
    let first := ((tt.suite config display).run .background groups).run S
    let second := ((tt.suite config display).run .background groups).run
      { S with tree := first.2.tree }
    (((tt.suite config display).workspace.prepare S.tree S.cwd groups).2 = none →
        second = first) ∧
      (S.tree.Sound S.cwd → second.1.1 = first.1.1 ∧
        second.1.2.map Failure.kind = first.1.2.map Failure.kind ∧ second.2 = first.2) := by
  intro first second
  have hready : ((tt.suite config display).workspace.prepare S.tree S.cwd groups).2 = none →
      second = first := fun hready => tt.rerun_of_ready config display groups S hready hcases
  refine ⟨hready, fun hs => ?_⟩
  rcases hprep : (tt.suite config display).workspace.prepare S.tree S.cwd groups with ⟨P, _ | f⟩
  · rw [hready (by rw [hprep])]
    exact ⟨rfl, rfl, rfl⟩
  · -- the setup fails again on the tree it left, and nothing else happens either time
    have hfirst := Suite.run_of_failure (tt.suite config display) .background groups S hprep
    obtain ⟨f', hagain⟩ := Workspace.ensureAll_fails_again hs _ hprep
    have hsecond := Suite.run_of_failure (tt.suite config display) .background groups
      { S with tree := P } hagain
    simp only [first, second, hfirst] at hsecond ⊢
    rw [hsecond]
    refine ⟨rfl, ?_, rfl⟩
    simp only [Option.map_some, Workspace.prepare_failure_kind hprep,
      Workspace.prepare_failure_kind hagain]

end TextTools

/-! ## Two cases whose names nest -/

/-- A corpus of two groups, `p` with the case `x`, whose source the compiler refuses, and `q`
with the case `x.a`; each case's source is its input, and the expected transcripts are kept
apart in `exp`. -/
def nestedNamesTree : FileTree :=
  { nodes := [(["corpus"], .dir), (["corpus", "p"], .dir), (["corpus", "q"], .dir),
      (["exp"], .dir), (["corpus", "p", "x.lama"], .file "#nocompile\n" false),
      (["corpus", "q", "x.a.lama"], .file "hello\n" false), (["exp", "x.log"], .file "" false),
      (["exp", "x.a.log"], .file "hello\nhello\n" false)] }

def nestedNamesSession : Session CallLog :=
  ⟨nestedNamesTree, [], "", "", [], {}⟩

def nestedNamesGroups : List Group :=
  [⟨"p"⟩, ⟨"q"⟩]

/-- A configuration for that corpus that writes transcripts into the working directory, names
artifacts with `artifactExt`, and runs every case. -/
def nestedNamesConfig (artifactExt : String) : Config :=
  { Config.defaults with
    corpusRoot := "corpus"
    outputDir := "."
    inputExt := ".lama"
    artifactExt
    expectedDir := "../../exp"
    stopOnFirstFailure := false }

/-- A corpus beside a file `f`, seen from the directory `w`. -/
def fileBesideCorpusSession : Session CallLog :=
  ⟨{ nodes := [(["w"], .dir), (["w", "corpus"], .dir), (["w", "f"], .file "x" false)] }, ["w"], "",
    "", [], {}⟩

/-- A configuration for that corpus whose output directory goes through a missing `m` to `f`. -/
def throughMissingConfig : Config :=
  { Config.defaults with corpusRoot := "corpus", outputDir := "m/../f" }

/-- Runs repeated. With the scripted tools and artifacts named `.bc`, the run of the nested names
can be run again and does the same. A run whose output directory `m/../f` goes through the
missing `m` to the file `f` fails to set up twice with the same tally, output and tree: first
`mkdir` finds `f` there, and then, `m` made, the path names a file that is no directory. -/
theorem runs_again_alike :
    (let tt := Scripted.tools (nestedNamesConfig ".bc").layout
     let s := tt.suite (nestedNamesConfig ".bc") true
     (s.workspace.prepare nestedNamesSession.tree nestedNamesSession.cwd nestedNamesGroups).2 =
        none ∧
      (∀ cases, s.plan (s.workspace.prepare nestedNamesSession.tree nestedNamesSession.cwd
          nestedNamesGroups).1 nestedNamesSession.cwd nestedNamesGroups = .ok cases →
        tt.Rerunnable (nestedNamesConfig ".bc") nestedNamesGroups nestedNamesSession.cwd cases) ∧
      (s.run .background nestedNamesGroups).run
          { nestedNamesSession with
            tree := ((s.run .background nestedNamesGroups).run nestedNamesSession).2.tree } =
        (s.run .background nestedNamesGroups).run nestedNamesSession) ∧
    (let tt := Scripted.tools throughMissingConfig.layout
     let s := tt.suite throughMissingConfig false
     let first := (s.run .background []).run fileBesideCorpusSession
     let second := (s.run .background []).run { fileBesideCorpusSession with tree := first.2.tree }
     fileBesideCorpusSession.tree.Sound fileBesideCorpusSession.cwd ∧
      (second.1.1 = first.1.1 ∧ second.1.2.map Failure.kind = first.1.2.map Failure.kind ∧
        second.2 = first.2) ∧
      first.1.2.map Failure.message =
        some "workspace setup failed: create m/../f: mkdir m/../f: file exists" ∧
      second.1.2.map Failure.message =
        some "workspace setup failed: create m/../f: mkdir m/../f: not a directory") := by
  refine ⟨?nested, ?blocked⟩
  case nested =>
    intro tt s
    have hready : (s.workspace.prepare nestedNamesSession.tree nestedNamesSession.cwd
        nestedNamesGroups).2 = none := by
      decide +kernel
    have hcases : ∀ cases, s.plan (s.workspace.prepare nestedNamesSession.tree
        nestedNamesSession.cwd nestedNamesGroups).1 nestedNamesSession.cwd nestedNamesGroups =
          .ok cases →
        tt.Rerunnable (nestedNamesConfig ".bc") nestedNamesGroups nestedNamesSession.cwd cases := by
      intro cases hplan
      have hcs : cases = (s.plan (s.workspace.prepare nestedNamesSession.tree
          nestedNamesSession.cwd nestedNamesGroups).1 nestedNamesSession.cwd
            nestedNamesGroups).toOption.getD [] := by
        rw [hplan]
        rfl
      subst hcs
      exact ⟨by decide +kernel, by decide +kernel, by decide +kernel, by decide +kernel,
        by decide +kernel⟩
    exact ⟨hready, hcases, (tt.run_again_eq _ true _ _ hcases).1 hready⟩
  case blocked =>
    intro tt s first second
    have hs : fileBesideCorpusSession.tree.Sound fileBesideCorpusSession.cwd := by decide
    have hcases : ∀ cases, s.plan (s.workspace.prepare fileBesideCorpusSession.tree
        fileBesideCorpusSession.cwd []).1 fileBesideCorpusSession.cwd [] = .ok cases →
        tt.Rerunnable throughMissingConfig [] fileBesideCorpusSession.cwd cases := by
      intro cases hplan
      cases hplan
      exact TextTools.Rerunnable.nil
    exact ⟨hs, (tt.run_again_eq _ false _ _ hcases).2 hs, by decide +kernel, by decide +kernel⟩

/-- The scripted compiler, with an interpreter that reads no directives: it prints the input,
then the artifact's text. -/
def Scripted.plainTools (layout : Layout) : TextTools :=
  { Scripted.tools layout with
    perform := fun text input _ => match input with
      | .text t => ⟨0, none, t ++ text⟩
      | .directory => ⟨-1, some "read input: is a directory", ""⟩ }

/-- With artifacts named `.a.log`, the transcript of `x.a` is the file `x.a.log`, which is where
`x` looks for its artifact. The first run finds no artifact for `x`, whose compiler fails, and
`x` fails in its interpreter; run again, `x` interprets the transcript that `x.a` left, and
fails on its output instead. -/
theorem later_transcript_read_as_artifact_on_rerun :
    let s := (Scripted.plainTools (nestedNamesConfig ".a.log").layout).suite
      (nestedNamesConfig ".a.log") true
    let first := (s.run .background nestedNamesGroups).run nestedNamesSession
    let second := (s.run .background nestedNamesGroups).run
      { nestedNamesSession with tree := first.2.tree }
    first.1.1.failed.map CaseResult.verdict = [.interpreterFailure] ∧
      second.1.1.failed.map CaseResult.verdict = [.outputMismatch] := by
  decide +kernel

end Regress
