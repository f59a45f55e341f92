import Regress.Proofs.FailureKinds

/-!
# Where a command line's exit status comes from

A command line that runs no command succeeds or fails with an `other` failure
(`Cli.execute_of_route_none`); one that runs a command does what the command does
(`Cli.execute_of_route`). Only `run` and `list` can fail after that, and both first load the
configuration: `list` then plans, and `run` prepares and runs the cases, failing with the
status of its tally, 1 or 255, only when that is not 0 (`Cli.runCommandLine_of_run`).

Together with the kinds each stage can fail with, this gives, for every command line, where
each exit status comes from (`Cli.exit_status_by_source`), and what `list` does: it prints the
plan, or fails as loading or planning fails, and changes nothing else
(`Cli.list_changes_nothing`).
-/

namespace Regress

/-! ## Which command a command line runs -/

namespace Cli

/-- The command a command line runs, with its parsed flags and words, when the line gets past
every check before a command runs: it is no completion request, its words name a command, the
command accepts its flags, it asks neither for help nor for the version, the command does
something itself, and it has no words where the command takes none. -/
def route (args : List String) : Option (CommandId × Parsed) :=
  match completionRequest args with
  | some _ => none
  | none =>
    match locate args with
    | .error _ => none
    | .ok (c, words) =>
      match parse c.flags words with
      | .error _ => none
      | .ok p =>
        if p.switch "help" || (c == .root && p.switch "version") || !c.info.runnable then none
        else if !p.args.isEmpty && c.info.noArgs then none
        else some (c, p)

theorem execute_of_route {args : List String} {c : CommandId} {p : Parsed}
    (h : route args = some (c, p)) (S : Session Launcher) :
    (execute args).run S = (execute.dispatch c p).run S := by
  unfold route at h
  unfold execute
  rcases hcr : completionRequest args with _ | ⟨brief, words⟩
  · rcases hloc : locate args with m | ⟨c', words⟩
    · simp [hcr, hloc] at h
    · rcases hp : parse c'.flags words with m | p'
      · simp [hcr, hloc, hp] at h
      · simp only [hcr, hloc, hp] at h ⊢
        split at h
        · cases h
        · rename_i hchecks
          split at h
          · cases h
          · rename_i hwords
            cases h
            simp only [Bool.or_eq_true, Bool.not_eq_true', not_or, Bool.not_eq_false] at hchecks
            obtain ⟨⟨hhelp, hversion⟩, hrunnable⟩ := hchecks
            simp only [hhelp, hversion, hrunnable, Bool.false_eq_true, ↓reduceIte, Bool.not_true]
            cases hargs : p.args with
            | nil => rfl
            | cons word tail =>
              simp only [hargs, List.isEmpty_cons, Bool.not_false, Bool.true_and] at hwords
              simp [hwords]
  · simp [hcr] at h

/-- A command line that runs no command succeeds, or fails with neither a bad configuration, a
crash, a corpus or workspace failure nor a run's status. -/
theorem execute_of_route_none {args : List String} (h : route args = none) (S : Session Launcher) :
    ((execute args).run S).1 = .ok () ∨ ∃ f, ((execute args).run S).1 = .error f ∧ f.kind = .other := by
  unfold route at h
  unfold execute
  rcases hcr : completionRequest args with _ | ⟨brief, words⟩
  · rcases hloc : locate args with m | ⟨c, words⟩
    · simp [Failure.other]
    · rcases hp : parse c.flags words with m | p
      · simp [hp, Failure.other]
      · simp only [hcr, hloc, hp] at h ⊢
        by_cases hhelp : p.switch "help" = true
        · simp [hhelp, Session.print]
        · by_cases hv : (c == .root && p.switch "version") = true
          · simp [hhelp, hv, Session.print]
          · by_cases hr : c.info.runnable = true
            · -- the only way left to run no command: words where the command takes none
              simp only [hhelp, hv, hr, Bool.or_false, Bool.not_true, Bool.false_eq_true,
                ↓reduceIte, Bool.and_eq_true, Bool.not_eq_true', List.isEmpty_eq_false_iff] at h
              split at h
              · rename_i hwords
                obtain ⟨hne, hno⟩ := hwords
                obtain ⟨w, ws, hargs⟩ := List.exists_cons_of_ne_nil hne
                simp [hhelp, hv, hr, hargs, hno, Failure.other]
              · cases h
            · simp [hhelp, hv, hr, Session.print]
  · dsimp only
    unfold answerCompletion
    split <;> simp [Session.print, Session.printErr, Failure.other]

theorem dispatch_other {c : CommandId} (hrun : c ≠ .run) (hlist : c ≠ .list) (p : Parsed)
    (S : Session Launcher) : ((execute.dispatch c p).run S).1 = .ok () := by
  cases c <;> first
    | exact absurd rfl hrun
    | exact absurd rfl hlist
    | simp [execute.dispatch, execute.script, Session.print]

variable (p : Parsed) (action : Config → CliM (Except Failure Unit)) (S : Session Launcher)

theorem withConfig_of_load_error {f : Failure}
    (h : Config.load p.options S.tree S.cwd S.tools.env = .error f) :
    (withConfig p action).run S = (.error f, S) := by
  simp [withConfig, h]

theorem withConfig_of_load_ok {c : Config} {env : Environment}
    (h : Config.load p.options S.tree S.cwd S.tools.env = .ok (c, env)) :
    (withConfig p action).run S = (action c).run { S with tools := { S.tools with env } } := by
  simp [withConfig, h, Session.updateTools]

theorem listCorpus_of_plan_error (c : Config) {f : Failure}
    (h : (newSuite c ("/" ++ "/".intercalate S.cwd)).plan S.tree S.cwd c.groupList = .error f) :
    (listCorpus c).run S = (.error f, S) := by
  -- rewriting the binds one by one: a simp over them leaves the kernel a check it cannot finish
  unfold listCorpus workingDir
  rw [StateT.run_bind, StateT.run_get, id_bind_eq, StateT.run_bind, StateT.run_bind,
    StateT.run_get, id_bind_eq]
  dsimp only [id_pure_eq, id_bind_eq, StateT.run_pure]
  rw [h]
  rfl

theorem listCorpus_of_plan_ok (c : Config) {cases : List Case}
    (h : (newSuite c ("/" ++ "/".intercalate S.cwd)).plan S.tree S.cwd c.groupList = .ok cases) :
    (listCorpus c).run S = (.ok (), { S with out := S.out ++ Listing.render c.groupList cases }) := by
  unfold listCorpus workingDir
  rw [StateT.run_bind, StateT.run_get, id_bind_eq, StateT.run_bind, StateT.run_bind,
    StateT.run_get, id_bind_eq]
  dsimp only [id_pure_eq, id_bind_eq, StateT.run_pure]
  rw [h]
  rfl

/-- The suite `run` goes through its cases with, from the working directory `cwd`: the
configuration's, with a progress display when one is asked for and there are cases. -/
def runningSuite (c : Config) (cwd : List String) (cases : List Case) : Suite CliM :=
  if c.flags.progress && !cases.isEmpty then
    { newSuite c ("/" ++ "/".intercalate cwd) with progress := some Session.progressDisplay }
  else newSuite c ("/" ++ "/".intercalate cwd)

theorem runningSuite_config (c : Config) (cwd : List String) (cases : List Case) :
    (runningSuite c cwd cases).config = c := by
  unfold runningSuite
  split <;> rfl

theorem runCorpus_of_prepare_error (c : Config) {f : Failure} {S₁ : Session Launcher}
    (h : ((newSuite c ("/" ++ "/".intercalate S.cwd)).prepare c.groupList).run S =
      (.error f, S₁)) :
    (runCorpus c).run S = (.error f, S₁) := by
  unfold runCorpus workingDir
  rw [StateT.run_bind, StateT.run_bind, StateT.run_get, id_bind_eq]
  dsimp only [id_pure_eq, id_bind_eq, StateT.run_pure]
  rw [StateT.run_bind, h]
  rfl

/-- With the workspace set up and the cases planned, the run goes through the cases and fails
with the exit status of its tally when that is not 0. -/
theorem runCorpus_of_prepare_ok (c : Config) {cases : List Case} {S₁ S₂ : Session Launcher}
    {o : Outcome}
    (h : ((newSuite c ("/" ++ "/".intercalate S.cwd)).prepare c.groupList).run S =
      (.ok cases, S₁))
    (hrun : ((runningSuite c S.cwd cases).execute .background cases).run S₁ = ((o, none), S₂)) :
    (runCorpus c).run S =
      (if o.exitCode != 0 then .error (Failure.sentinel (.exit o.exitCode)) else .ok (), S₂) := by
  unfold runCorpus workingDir
  rw [StateT.run_bind, StateT.run_bind, StateT.run_get, id_bind_eq]
  dsimp only [id_pure_eq, id_bind_eq, StateT.run_pure]
  rw [StateT.run_bind, h]
  dsimp only [id_bind_eq]
  unfold runningSuite at hrun
  rw [StateT.run_bind, hrun]
  dsimp only [id_bind_eq]
  split <;> rfl

/-! ## What a command line ends with -/

section CommandLine

variable (args : List String) (t : FileTree) (cwd : List String) (env : Environment)

theorem runCommandLine_of_ok {S : Session Launcher}
    (h : (execute args).run { tree := t, cwd, tools := { env } } = (.ok (), S)) :
    runCommandLine args t cwd env = (none, S) := by
  simp [runCommandLine, h]

theorem runCommandLine_of_error {f : Failure} {S : Session Launcher}
    (h : (execute args).run { tree := t, cwd, tools := { env } } = (.error f, S)) :
    runCommandLine args t cwd env = (some f, S) := by
  simp [runCommandLine, h]

/-- The command line runs `run` or `list`, and the configuration does not load. -/
def LoadFails : Prop :=
  ∃ c p f, route args = some (c, p) ∧ (c = .run ∨ c = .list) ∧
    Config.load p.options t cwd env = .error f

/-- The command line runs the cases of the configuration `c` it loads, and the run ends with
the tally `o`: the command is `run`, the configuration loads, the workspace is set up, the
cases are planned, and the run goes through them, with a progress display when one is asked
for and there are cases. -/
def RunsTo (c : Config) (o : Outcome) : Prop :=
  ∃ p env', route args = some (.run, p) ∧ Config.load p.options t cwd env = .ok (c, env') ∧
    ∃ cases S₁, ((newSuite c ("/" ++ "/".intercalate cwd)).prepare c.groupList).run
        { tree := t, cwd, tools := { env := env' } } = (.ok cases, S₁) ∧
      ∃ S₂, ((runningSuite c cwd cases).execute .background cases).run S₁ = ((o, none), S₂)

variable {args t cwd env}

/-- A run goes through its cases as a run that nothing ends does. -/
theorem RunsTo.counted {c : Config} {o : Outcome} (h : RunsTo args t cwd env c o) :
    o.succeeded + o.failed.length = o.total ∧
      (o.aborted = true ↔ c.stopOnFirstFailure = true ∧ o.failed ≠ []) := by
  obtain ⟨p, env', -, -, cases, S₁, -, S₂, hrun⟩ := h
  have hfacts := Suite.execute_background (runningSuite c cwd cases) cases S₁
  rw [hrun, runningSuite_config] at hfacts
  exact ⟨hfacts.2.1, hfacts.2.2.1⟩

/-- A command line runs to one configuration and one tally at most. -/
theorem RunsTo.unique {c c' : Config} {o o' : Outcome} (h : RunsTo args t cwd env c o)
    (h' : RunsTo args t cwd env c' o') : c = c' ∧ o = o' := by
  obtain ⟨p, env₁, hr, hl, cases, S₁, hprep, S₂, hrun⟩ := h
  obtain ⟨p', env₁', hr', hl', cases', S₁', hprep', S₂', hrun'⟩ := h'
  obtain rfl : p = p' := by
    rw [hr] at hr'
    cases hr'
    rfl
  obtain ⟨rfl, rfl⟩ : c = c' ∧ env₁ = env₁' := by
    rw [hl] at hl'
    cases hl'
    exact ⟨rfl, rfl⟩
  obtain ⟨rfl, rfl⟩ : cases = cases' ∧ S₁ = S₁' := by
    rw [hprep] at hprep'
    cases hprep'
    exact ⟨rfl, rfl⟩
  rw [hrun] at hrun'
  cases hrun'
  exact ⟨rfl, rfl⟩

theorem runCommandLine_fst_eq_none :
    (runCommandLine args t cwd env).1 = none ↔
      ((execute args).run { tree := t, cwd, tools := { env } }).1 = .ok () := by
  unfold runCommandLine
  rcases (execute args).run { tree := t, cwd, tools := { env } } with ⟨_ | ⟨⟩, S⟩ <;> simp

theorem runCommandLine_fst_eq_some {f : Failure} :
    (runCommandLine args t cwd env).1 = some f ↔
      ((execute args).run { tree := t, cwd, tools := { env } }).1 = .error f := by
  unfold runCommandLine
  rcases (execute args).run { tree := t, cwd, tools := { env } } with ⟨_ | ⟨⟩, S⟩ <;> simp

/-- A command line that runs no command succeeds or fails with an `other` failure. -/
theorem runCommandLine_of_route_none (h : route args = none) :
    (runCommandLine args t cwd env).1 = none ∨
      ∃ f, (runCommandLine args t cwd env).1 = some f ∧ f.kind = .other := by
  rcases execute_of_route_none h { tree := t, cwd, tools := { env } } with hok | ⟨f, hf, hk⟩
  · exact .inl (runCommandLine_fst_eq_none.2 hok)
  · exact .inr ⟨f, runCommandLine_fst_eq_some.2 hf, hk⟩

theorem runCommandLine_of_route_other {c : CommandId} {p : Parsed} (h : route args = some (c, p))
    (hrun : c ≠ .run) (hlist : c ≠ .list) : (runCommandLine args t cwd env).1 = none := by
  rw [runCommandLine_fst_eq_none, execute_of_route h]
  exact dispatch_other hrun hlist p _

/-- `run` and `list` end where they started, with the failure to load, when the configuration
does not load. -/
theorem runCommandLine_of_load_error {c : CommandId} {p : Parsed} {f : Failure}
    (h : route args = some (c, p)) (hc : c = .run ∨ c = .list)
    (hload : Config.load p.options t cwd env = .error f) :
    runCommandLine args t cwd env = (some f, { tree := t, cwd, tools := { env } }) := by
  apply runCommandLine_of_error
  rw [execute_of_route h]
  rcases hc with rfl | rfl <;> exact withConfig_of_load_error p _ _ hload

section Loaded

variable {p : Parsed} {c : Config} {env' : Environment}
  (hload : Config.load p.options t cwd env = .ok (c, env'))
include hload

/-- `list` with a configuration that loads prints the plan, or fails as the plan does, and
changes nothing else but the environment the programs would see. -/
theorem runCommandLine_of_list (h : route args = some (.list, p)) :
    (∀ cases, (newSuite c ("/" ++ "/".intercalate cwd)).plan t cwd c.groupList = .ok cases →
      runCommandLine args t cwd env =
        (none, { tree := t, cwd, out := Listing.render c.groupList cases, tools := { env := env' } })) ∧
    (∀ f, (newSuite c ("/" ++ "/".intercalate cwd)).plan t cwd c.groupList = .error f →
      runCommandLine args t cwd env = (some f, { tree := t, cwd, tools := { env := env' } })) := by
  have hwith := withConfig_of_load_ok p listCorpus { tree := t, cwd, tools := { env } } hload
  refine ⟨fun cases hplan => ?_, fun f hplan => ?_⟩
  · apply runCommandLine_of_ok
    rw [execute_of_route h]
    exact hwith.trans (listCorpus_of_plan_ok _ c hplan)
  · apply runCommandLine_of_error
    rw [execute_of_route h]
    exact hwith.trans (listCorpus_of_plan_error _ c hplan)

/-- `run` with a configuration that loads either fails to set up its workspace or to plan, and
then runs to no tally, or it runs to a tally and fails with the tally's exit status when that is
not 0. -/
theorem runCommandLine_of_run (h : route args = some (.run, p)) :
    (∃ f, (runCommandLine args t cwd env).1 = some f ∧
        (f.kind = .discovery ∨ f.kind = .workspace) ∧ ∀ o, ¬ RunsTo args t cwd env c o) ∨
      ∃ o, RunsTo args t cwd env c o ∧ (runCommandLine args t cwd env).1 =
        if o.exitCode != 0 then some (Failure.sentinel (.exit o.exitCode)) else none := by
  have hdisp : (execute args).run { tree := t, cwd, tools := { env } } =
      (runCorpus c).run { tree := t, cwd, tools := { env := env' } } :=
    (execute_of_route h _).trans (withConfig_of_load_ok p runCorpus _ hload)
  rcases hprep : ((newSuite c ("/" ++ "/".intercalate cwd)).prepare c.groupList).run
    { tree := t, cwd, tools := { env := env' } } with ⟨_ | cases, S₁⟩
  · rename_i f
    have hres := hdisp.trans (runCorpus_of_prepare_error _ c hprep)
    refine .inl ⟨f, by rw [runCommandLine_of_error args t cwd env hres], Suite.prepare_error_kind _ hprep, ?_⟩
    -- the same command line loads the same configuration and prepares alike, so it fails there
    rintro o ⟨p', env'', hr', hl', cases, S₁', hprep', -⟩
    rw [h] at hr'
    cases hr'
    rw [hload] at hl'
    cases hl'
    rw [hprep] at hprep'
    cases hprep'
  · rcases hrun : ((runningSuite c cwd cases).execute .background cases).run S₁ with
      ⟨⟨o, e⟩, S₂⟩
    obtain rfl : e = none := by
      have hnone := (Suite.execute_background (runningSuite c cwd cases) cases S₁).1
      rwa [hrun] at hnone
    refine .inr ⟨o, ⟨p, env', h, hload, cases, S₁, hprep, S₂, hrun⟩, ?_⟩
    have hres := hdisp.trans (runCorpus_of_prepare_ok _ c hprep hrun)
    split at hres
    · rename_i hne
      rw [runCommandLine_of_error args t cwd env hres, if_pos hne]
    · rename_i hzero
      rw [runCommandLine_of_ok args t cwd env hres, if_neg hzero]

end Loaded

/-- A configuration that does not load ends `run` and `list` with a bad configuration or a
crash. -/
theorem runCommandLine_of_loadFails (h : LoadFails args t cwd env) :
    ∃ f, (runCommandLine args t cwd env).1 = some f ∧ f.OfLoad := by
  obtain ⟨c, p, f, hr, hc, hl⟩ := h
  exact ⟨f, by rw [runCommandLine_of_load_error hr hc hl], Config.load_error_kind hl⟩

/-- A run that goes through its cases ends with the exit status of its tally, as a failure
when that is not 0. -/
theorem runCommandLine_of_runsTo {c : Config} {o : Outcome} (h : RunsTo args t cwd env c o) :
    (runCommandLine args t cwd env).1 =
      if o.exitCode != 0 then some (Failure.sentinel (.exit o.exitCode)) else none := by
  obtain ⟨p, env', hr, hl, -⟩ := id h
  rcases runCommandLine_of_run hl hr with ⟨f, -, -, hnot⟩ | ⟨o', h', hres⟩
  · exact absurd h (hnot o)
  · rw [hres, (h'.unique h).2]

/-- Every way a command line ends: it succeeds; or it runs no command and fails with an `other`
failure; or the configuration does not load and it fails with a bad configuration or a crash;
or it fails to set up the workspace or to plan; or it runs to a tally whose exit status is not
0 and fails with that status. -/
theorem runCommandLine_ending :
    (runCommandLine args t cwd env).1 = none ∨
    (∃ f, (runCommandLine args t cwd env).1 = some f ∧ f.kind = .other) ∨
    (LoadFails args t cwd env ∧ ∃ f, (runCommandLine args t cwd env).1 = some f ∧ f.OfLoad) ∨
    (∃ f, (runCommandLine args t cwd env).1 = some f ∧
      (f.kind = .discovery ∨ f.kind = .workspace)) ∨
    ∃ c o, RunsTo args t cwd env c o ∧ o.exitCode ≠ 0 ∧
      (runCommandLine args t cwd env).1 = some (Failure.sentinel (.exit o.exitCode)) := by
  rcases hr : route args with _ | ⟨c, p⟩
  · rcases @runCommandLine_of_route_none args t cwd env hr with h | h
    · exact .inl h
    · exact .inr (.inl h)
  -- a command runs: only `run` and `list` can fail, and both first load the configuration
  by_cases hc : c = .run ∨ c = .list
  · rcases hl : Config.load p.options t cwd env with f | ⟨conf, env'⟩
    · exact .inr (.inr (.inl (runCommandLine_of_loadFails ⟨c, p, f, hr, hc, hl⟩ |> fun h =>
        ⟨⟨c, p, f, hr, hc, hl⟩, h⟩)))
    · rcases hc with rfl | rfl
      · rcases runCommandLine_of_run hl hr with ⟨f, hf, hk, -⟩ | ⟨o, ho, hres⟩
        · exact .inr (.inr (.inr (.inl ⟨f, hf, hk⟩)))
        · by_cases hz : o.exitCode = 0
          · left
            simp [hres, hz]
          · refine .inr (.inr (.inr (.inr ⟨conf, o, ho, hz, ?_⟩)))
            simp [hres, hz]
      · obtain ⟨hok, herr⟩ := runCommandLine_of_list hl hr
        rcases hplan : (newSuite conf ("/" ++ "/".intercalate cwd)).plan t cwd conf.groupList with
          f | cases
        · exact .inr (.inr (.inr (.inl ⟨f, by rw [herr f hplan], .inl (Suite.plan_error_kind _ hplan)⟩)))
        · left
          rw [hok cases hplan]
  · simp only [not_or] at hc
    exact .inl (runCommandLine_of_route_other hr hc.1 hc.2)

/-- The exit status of a run's tally: 255 when a case failed and stopped the run, 0 when some
case ran and none failed, and 1 otherwise. -/
theorem RunsTo.exitCode {c : Config} {o : Outcome} (h : RunsTo args t cwd env c o) :
    o.exitCode = if c.stopOnFirstFailure = true ∧ o.failed ≠ [] then 255
      else if 0 < o.total ∧ o.failed = [] then 0 else 1 := by
  obtain ⟨hcount, habort⟩ := h.counted
  rw [Outcome.exitCode_of_counted hcount]
  by_cases hs : c.stopOnFirstFailure = true ∧ o.failed ≠ []
  · rw [if_pos (habort.2 hs), if_pos hs]
  · rw [if_neg (fun ha => hs (habort.1 ha)), if_neg hs]

/-- A run's tally has status 255 exactly when a case failed and stopped the run. -/
theorem RunsTo.exitCode_eq_255_iff {c : Config} {o : Outcome} (h : RunsTo args t cwd env c o) :
    o.exitCode = 255 ↔ c.stopOnFirstFailure = true ∧ o.failed ≠ [] := by
  rw [h.exitCode]
  split
  next hs => exact iff_of_true rfl hs
  next hs => split <;> exact iff_of_false (by decide) hs

/-- A run's tally has status 0 exactly when some case ran and none failed. -/
theorem RunsTo.exitCode_eq_zero_iff {c : Config} {o : Outcome} (h : RunsTo args t cwd env c o) :
    o.exitCode = 0 ↔ 0 < o.total ∧ o.failed = [] := by
  rw [h.exitCode]
  split
  next hs => exact iff_of_false (by decide) fun hp => hs.2 hp.2
  next =>
    split
    next hp => exact iff_of_true rfl hp
    next hp => exact iff_of_false (by decide) hp

/-- A run's tally has status 1 exactly when no case ran, or when the run went on past a
failure. -/
theorem RunsTo.exitCode_eq_one_iff {c : Config} {o : Outcome} (h : RunsTo args t cwd env c o) :
    o.exitCode = 1 ↔ o.total = 0 ∨ c.stopOnFirstFailure = false ∧ o.failed ≠ [] := by
  have hnil : o.total = 0 → o.failed = [] := fun h0 =>
    List.eq_nil_of_length_eq_zero (by have := h.counted.1; omega)
  rw [h.exitCode]
  split
  next hs =>
    refine iff_of_false (by decide) ?_
    rintro (h0 | ⟨hstop, -⟩)
    · exact hs.2 (hnil h0)
    · simp [hs.1] at hstop
  next hs =>
    split
    next hp =>
      refine iff_of_false (by decide) ?_
      rintro (h0 | ⟨-, hne⟩)
      · exact Nat.ne_of_gt hp.1 h0
      · exact hne hp.2
    next hp =>
      refine iff_of_true rfl ?_
      rcases Nat.eq_zero_or_pos o.total with h0 | hpos
      · exact .inl h0
      · have hne : o.failed ≠ [] := fun he => hp ⟨hpos, he⟩
        exact .inr ⟨by simpa [hne] using hs, hne⟩

/-- The exit status of every command line, and whether its failure is already reported, by
how it ends: 0 with no failure; 1 for a failure to set up the workspace or to plan and for an
`other` failure; 2 when the configuration does not load; and the status of a run's tally,
already reported, when that is not 0. -/
theorem status_cases :
    let r := (runCommandLine args t cwd env).1
    (r = none ∧ Failure.exitStatus r = 0 ∧ Failure.silent r = false) ∨
    (∃ f, r = some f ∧ (f.kind = .discovery ∨ f.kind = .workspace ∨ f.kind = .other) ∧
      Failure.exitStatus r = 1 ∧ Failure.silent r = false) ∨
    (LoadFails args t cwd env ∧ (∃ f, r = some f ∧ f.OfLoad) ∧ Failure.exitStatus r = 2 ∧
      Failure.silent r = false) ∨
    ∃ c o, RunsTo args t cwd env c o ∧ o.exitCode ≠ 0 ∧
      r = some (Failure.sentinel (.exit o.exitCode)) ∧
      Failure.exitStatus r = o.exitCode ∧ Failure.silent r = true := by
  dsimp only
  rcases @runCommandLine_ending args t cwd env with
    hnone | ⟨f, hf, hk⟩ | ⟨hload, f, hf, hk⟩ | ⟨f, hf, hk⟩ | ⟨c, o, ho, hz, hf⟩
  · rw [hnone]
    exact .inl ⟨rfl, rfl, rfl⟩
  · rw [hf]
    exact .inr (.inl ⟨f, rfl, .inr (.inr hk), Failure.status_of_kind_one (.inr (.inr hk))⟩)
  · rw [hf]
    exact .inr (.inr (.inl ⟨hload, ⟨f, rfl, hk⟩, Failure.status_of_ofLoad hk⟩))
  · rw [hf]
    have hk' : f.kind = .discovery ∨ f.kind = .workspace ∨ f.kind = .other := by
      rcases hk with hk | hk <;> simp [hk]
    exact .inr (.inl ⟨f, rfl, hk', Failure.status_of_kind_one hk'⟩)
  · rw [hf]
    exact .inr (.inr (.inr ⟨c, o, ho, hz, rfl, rfl, rfl⟩))

/-- A run's failure carries the status of its tally, 1 or 255. -/
theorem RunsTo.exitCode_ne_zero {c : Config} {o : Outcome} (h : RunsTo args t cwd env c o)
    (hz : o.exitCode ≠ 0) : o.exitCode = 1 ∨ o.exitCode = 255 := by
  rw [h.exitCode] at hz ⊢
  by_cases hs : c.stopOnFirstFailure = true ∧ o.failed ≠ []
  · exact .inr (if_pos hs)
  · rw [if_neg hs] at hz ⊢
    by_cases hp : 0 < o.total ∧ o.failed = []
    · rw [if_pos hp] at hz
      exact absurd rfl hz
    · exact .inl (if_neg hp)

/-! ### Each exit status and where it comes from -/

theorem exitStatus_eq_zero_iff :
    Failure.exitStatus (runCommandLine args t cwd env).1 = 0 ↔
      (runCommandLine args t cwd env).1 = none := by
  rcases @status_cases args t cwd env with
    ⟨hr, hs, -⟩ | ⟨f, hr, -, hs, -⟩ | ⟨-, ⟨f, hr, -⟩, hs, -⟩ | ⟨c, o, -, hz, hr, hs, -⟩
  · exact iff_of_true hs hr
  · rw [hs, hr]
    simp
  · rw [hs, hr]
    simp
  · rw [hs, hr]
    simp [hz]

/-- `run` ends with no failure exactly when it runs to a tally with some case and no failed
one. -/
theorem run_none_iff {p : Parsed} (h : route args = some (.run, p)) :
    (runCommandLine args t cwd env).1 = none ↔
      ∃ c o, RunsTo args t cwd env c o ∧ 0 < o.total ∧ o.failed = [] := by
  constructor
  · intro hnone
    rcases hl : Config.load p.options t cwd env with f | ⟨c, env'⟩
    · obtain ⟨f', hf', -⟩ := runCommandLine_of_loadFails ⟨.run, p, f, h, .inl rfl, hl⟩
      rw [hnone] at hf'
      cases hf'
    rcases runCommandLine_of_run hl h with ⟨f, hf, -, -⟩ | ⟨o, ho, hres⟩
    · rw [hnone] at hf
      cases hf
    refine ⟨c, o, ho, ho.exitCode_eq_zero_iff.1 ?_⟩
    rw [hnone] at hres
    by_cases hz : o.exitCode = 0
    · exact hz
    · simp [hz] at hres
  · rintro ⟨c, o, ho, hpass⟩
    rw [runCommandLine_of_runsTo ho, ho.exitCode_eq_zero_iff.2 hpass]
    rfl

theorem exitStatus_eq_two_iff :
    Failure.exitStatus (runCommandLine args t cwd env).1 = 2 ↔ LoadFails args t cwd env := by
  refine ⟨fun h => ?_, fun h => ?_⟩
  · rcases @status_cases args t cwd env with
      ⟨-, hs, -⟩ | ⟨f, -, -, hs, -⟩ | ⟨hload, -⟩ | ⟨c, o, ho, hz, -, hs, -⟩
    · omega
    · omega
    · exact hload
    · rcases ho.exitCode_ne_zero hz with h' | h' <;> omega
  · obtain ⟨f, hf, hk⟩ := runCommandLine_of_loadFails h
    rw [hf, (Failure.status_of_ofLoad hk).1]

theorem exitStatus_eq_255_iff :
    Failure.exitStatus (runCommandLine args t cwd env).1 = 255 ↔
      ∃ c o, RunsTo args t cwd env c o ∧ c.stopOnFirstFailure = true ∧ o.failed ≠ [] := by
  refine ⟨fun h => ?_, fun ⟨c, o, ho, hs, hf⟩ => ?_⟩
  · rcases @status_cases args t cwd env with
      ⟨-, hs, -⟩ | ⟨f, -, -, hs, -⟩ | ⟨-, -, hs, -⟩ | ⟨c, o, ho, -, -, hs, -⟩
    · omega
    · omega
    · omega
    exact ⟨c, o, ho, ho.exitCode_eq_255_iff.1 (by omega)⟩
  · rw [runCommandLine_of_runsTo ho, ho.exitCode_eq_255_iff.2 ⟨hs, hf⟩]
    rfl

theorem exitStatus_eq_one_iff :
    Failure.exitStatus (runCommandLine args t cwd env).1 = 1 ↔
      (∃ f, (runCommandLine args t cwd env).1 = some f ∧
        (f.kind = .discovery ∨ f.kind = .workspace ∨ f.kind = .other)) ∨
      ∃ c o, RunsTo args t cwd env c o ∧
        (o.total = 0 ∨ c.stopOnFirstFailure = false ∧ o.failed ≠ []) := by
  refine ⟨fun h => ?_, fun h => ?_⟩
  · rcases @status_cases args t cwd env with
      ⟨-, hs, -⟩ | ⟨f, hr, hk, -⟩ | ⟨-, -, hs, -⟩ | ⟨c, o, ho, -, -, hs, -⟩
    · omega
    · exact .inl ⟨f, hr, hk⟩
    · omega
    exact .inr ⟨c, o, ho, ho.exitCode_eq_one_iff.1 (by omega)⟩
  · rcases h with ⟨f, hf, hk⟩ | ⟨c, o, ho, hcase⟩
    · rw [hf, (Failure.status_of_kind_one hk).1]
    · rw [runCommandLine_of_runsTo ho, ho.exitCode_eq_one_iff.2 hcase]
      rfl

/-- The only failure that is already reported is a run's status, which is never 0. -/
theorem silent_iff :
    Failure.silent (runCommandLine args t cwd env).1 = true ↔
      ∃ c o, RunsTo args t cwd env c o ∧ o.exitCode ≠ 0 := by
  refine ⟨fun h => ?_, fun ⟨c, o, ho, hz⟩ => ?_⟩
  · rcases @status_cases args t cwd env with
      ⟨-, -, hs⟩ | ⟨f, -, -, -, hs⟩ | ⟨-, -, -, hs⟩ | ⟨c, o, ho, hz, -⟩
    · rw [hs] at h
      cases h
    · rw [hs] at h
      cases h
    · rw [hs] at h
      cases h
    · exact ⟨c, o, ho, hz⟩
  · rw [runCommandLine_of_runsTo ho]
    simp [hz]

theorem exit_kind_ne_zero {f : Failure} {code : Int}
    (h : (runCommandLine args t cwd env).1 = some f) (hk : f.kind = .exit code) :
    code = 1 ∨ code = 255 := by
  rcases @status_cases args t cwd env with
    ⟨hr, -⟩ | ⟨g, hr, hk', -⟩ | ⟨-, ⟨g, hr, hk'⟩, -⟩ | ⟨c, o, ho, hz, hr, -⟩
  · rw [hr] at h
    cases h
  · rw [hr, Option.some.injEq] at h
    subst h
    rcases hk' with hk' | hk' | hk' <;> rw [hk] at hk' <;> cases hk'
  · rw [hr, Option.some.injEq] at h
    subst h
    rcases hk' with hk' | hk' <;> rw [hk] at hk' <;> cases hk'
  · rw [hr, Option.some.injEq] at h
    subst h
    cases hk
    rcases ho.exitCode_ne_zero hz with h' | h' <;> simp [h']

end CommandLine

/-! ## The exit status of a command line -/

/-- Context put in front of a failure any number of times changes neither the exit status nor
whether the failure is already reported. -/
theorem exitStatus_wrapped (r : Option Failure) (contexts : List String) :
    Failure.exitStatus (r.map (contexts.foldr Failure.wrap)) = Failure.exitStatus r ∧
      Failure.silent (r.map (contexts.foldr Failure.wrap)) = Failure.silent r := by
  cases r with
  | none => exact ⟨rfl, rfl⟩
  | some f => exact Failure.exitStatus_congr (Failure.kind_foldr_wrap contexts f)

/-- Where the exit status of a command line comes from, for every command line, tree, working
directory and environment. It is 0 exactly when the command line ends with no failure, which
for `run` means that the run went through its cases, some case ran and none failed. It is 2
exactly when `run` or `list` cannot load its configuration, whose every failure is a bad
configuration or a crash. It is 255 exactly when a case failed and stopped a run under the
stopping rule. It is 1 otherwise: a failure to set up the workspace or to plan, any other
failure (a word or a flag that is refused), or a run that had no case or went on past its
failures. The only failure already reported is a run's status, which is 1 or 255, and context
put in front of a failure changes neither its status nor that. -/
theorem exit_status_by_source (args : List String) (t : FileTree) (cwd : List String)
    (env : Environment) :
    let r := (runCommandLine args t cwd env).1
    (Failure.exitStatus r = 0 ↔ r = none) ∧
    (∀ p, route args = some (.run, p) →
      (r = none ↔ ∃ c o, RunsTo args t cwd env c o ∧ 0 < o.total ∧ o.failed = [])) ∧
    (Failure.exitStatus r = 2 ↔ LoadFails args t cwd env) ∧
    (∀ flags f, Config.load flags t cwd env = .error f → f.kind = .config ∨ f.kind = .crash) ∧
    (Failure.exitStatus r = 255 ↔
      ∃ c o, RunsTo args t cwd env c o ∧ c.stopOnFirstFailure = true ∧ o.failed ≠ []) ∧
    (Failure.exitStatus r = 1 ↔
      (∃ f, r = some f ∧ (f.kind = .discovery ∨ f.kind = .workspace ∨ f.kind = .other)) ∨
      ∃ c o, RunsTo args t cwd env c o ∧
        (o.total = 0 ∨ c.stopOnFirstFailure = false ∧ o.failed ≠ [])) ∧
    (Failure.silent r = true ↔ ∃ c o, RunsTo args t cwd env c o ∧ o.exitCode ≠ 0) ∧
    (∀ f code, r = some f → f.kind = .exit code → code = 1 ∨ code = 255) ∧
    ∀ contexts : List String,
      Failure.exitStatus (r.map (contexts.foldr Failure.wrap)) = Failure.exitStatus r ∧
        Failure.silent (r.map (contexts.foldr Failure.wrap)) = Failure.silent r :=
  ⟨exitStatus_eq_zero_iff, fun _ h => run_none_iff h, exitStatus_eq_two_iff,
    fun _ _ h => Config.load_error_kind h, exitStatus_eq_255_iff, exitStatus_eq_one_iff,
    silent_iff, fun _ _ h hk => exit_kind_ne_zero h hk, exitStatus_wrapped _⟩

/-! ## Listing changes nothing -/

/-- What `list` does, for every command line that runs it, every tree, working directory and
environment. When the configuration does not load, it fails with that failure and the session
is as it started. When it loads, the plan is made with the suite `run` would use: if it fails,
which happens only when a group cannot be scanned, `list` fails with it; if it succeeds, `list`
prints the listing of the plan and nothing else. Either way the tree, the working directory and
standard error stay as they were, no progress is shown, and no program is started: the
launcher has handed out no process number. -/
theorem list_changes_nothing (args : List String) (t : FileTree) (cwd : List String)
    (env : Environment) (p : Parsed) (h : route args = some (.list, p)) :
    let R := runCommandLine args t cwd env
    (∀ f, Config.load p.options t cwd env = .error f →
      R = (some f, { tree := t, cwd, tools := { env } })) ∧
    ∀ c env', Config.load p.options t cwd env = .ok (c, env') →
      (∀ cases, (newSuite c ("/" ++ "/".intercalate cwd)).plan t cwd c.groupList = .ok cases →
        R = (none,
          { tree := t, cwd, out := Listing.render c.groupList cases, tools := { env := env' } })) ∧
      (∀ f, (newSuite c ("/" ++ "/".intercalate cwd)).plan t cwd c.groupList = .error f →
        f.kind = .discovery ∧ R = (some f, { tree := t, cwd, tools := { env := env' } })) := by
  refine ⟨fun f hload => runCommandLine_of_load_error h (.inr rfl) hload, fun c env' hload => ?_⟩
  obtain ⟨hok, herr⟩ := runCommandLine_of_list hload h
  exact ⟨hok, fun f hplan => ⟨Suite.plan_error_kind _ hplan, herr f hplan⟩⟩

/-- `list` with no flag, on an empty tree. -/
theorem plain_list_changes_nothing :
    route ["list"] = some (.list, {}) ∧
    let R := runCommandLine ["list"] ⟨[], false, [], []⟩ ["w"] ⟨[]⟩
    (∀ f, Config.load (Parsed.options {}) ⟨[], false, [], []⟩ ["w"] ⟨[]⟩ = .error f →
      R = (some f, { tree := ⟨[], false, [], []⟩, cwd := ["w"], tools := { env := ⟨[]⟩ } })) ∧
    ∀ c env', Config.load (Parsed.options {}) ⟨[], false, [], []⟩ ["w"] ⟨[]⟩ = .ok (c, env') →
      (∀ cases, (newSuite c ("/" ++ "/".intercalate ["w"])).plan ⟨[], false, [], []⟩ ["w"]
          c.groupList = .ok cases →
        R = (none, { tree := ⟨[], false, [], []⟩, cwd := ["w"],
                     out := Listing.render c.groupList cases, tools := { env := env' } })) ∧
      (∀ f, (newSuite c ("/" ++ "/".intercalate ["w"])).plan ⟨[], false, [], []⟩ ["w"]
          c.groupList = .error f →
        f.kind = .discovery ∧
          R = (some f, { tree := ⟨[], false, [], []⟩, cwd := ["w"], tools := { env := env' } })) :=
  have h : route ["list"] = some (.list, {}) := by decide +kernel
  ⟨h, list_changes_nothing ["list"] ⟨[], false, [], []⟩ ["w"] ⟨[]⟩ {} h⟩

end Cli

end Regress
