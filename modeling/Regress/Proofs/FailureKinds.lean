import Regress.Cli.App
import Regress.Proofs.Plan

/-!
# What each stage of a command line can fail with

A failure's kind decides the exit status (`Failure.exitStatus`), and each stage of a command
line can fail only with some kinds. Loading the configuration fails with a bad configuration or
a crash of the reader of the configuration file (`Config.load_error_kind`), preparing with a
workspace or discovery failure (`Suite.prepare_error_kind`), and planning with a discovery
failure (`Suite.plan_error_kind`). A run that nothing ends answers no error of its own, and its
tally is aborted exactly when a case failed under the stopping rule
(`Suite.execute_background`), so its exit status is 255 then, 0 when some case ran and none
failed, and 1 otherwise (`Outcome.exitCode_of_counted`).
-/

namespace Regress

/-! ## The exit status of a failure -/

/-- A failure that loading the configuration can end with: a bad configuration, or a crash of
the reader of the configuration file. -/
def Failure.OfLoad (f : Failure) : Prop :=
  f.kind = .config ∨ f.kind = .crash

/-- The exit status of a failure is read off its kind. -/
theorem Failure.exitStatus_congr {f g : Failure} (h : f.kind = g.kind) :
    Failure.exitStatus (some f) = Failure.exitStatus (some g) ∧
      Failure.silent (some f) = Failure.silent (some g) := by
  obtain ⟨k, m⟩ := f
  obtain ⟨k', m'⟩ := g
  simp only at h
  subst h
  cases k <;> exact ⟨rfl, rfl⟩

/-- Context put in front of a failure any number of times keeps its kind. -/
@[simp] theorem Failure.kind_foldr_wrap (contexts : List String) (f : Failure) :
    (contexts.foldr Failure.wrap f).kind = f.kind := by
  induction contexts with
  | nil => rfl
  | cons context contexts ih => simp [ih]

theorem Failure.status_of_ofLoad {f : Failure} (h : f.OfLoad) :
    Failure.exitStatus (some f) = 2 ∧ Failure.silent (some f) = false := by
  obtain ⟨k, m⟩ := f
  rcases h with h | h <;> simp only at h <;> subst h <;> exact ⟨rfl, rfl⟩

theorem Failure.status_of_kind_one {f : Failure}
    (h : f.kind = .discovery ∨ f.kind = .workspace ∨ f.kind = .other) :
    Failure.exitStatus (some f) = 1 ∧ Failure.silent (some f) = false := by
  obtain ⟨k, m⟩ := f
  rcases h with h | h | h <;> simp only at h <;> subst h <;> exact ⟨rfl, rfl⟩

@[simp] theorem Failure.exitStatus_exit (code : Int) :
    Failure.exitStatus (some (Failure.sentinel (.exit code))) = code := rfl

@[simp] theorem Failure.silent_exit (code : Int) :
    Failure.silent (some (Failure.sentinel (.exit code))) = true := rfl

/-! ## What loading the configuration can fail with -/

theorem FileSettings.applyTo_error_kind {s : FileSettings} {c : Config} {f : Failure}
    (h : s.applyTo c = .error f) : f.kind = .config := by
  unfold FileSettings.applyTo at h
  cases ht : s.timeout with
  | none =>
    simp [ht] at h
    cases h
  | some text =>
    cases hd : Duration.parse text with
    | ok d =>
      simp [ht, hd] at h
      cases h
    | error m =>
      simp only [ht, hd] at h
      cases h
      rfl

theorem validateFile_error_kind {text : String} {f : Failure} (h : validateFile text = .error f) :
    f.OfLoad := by
  unfold validateFile at h
  split at h
  · cases h
    exact .inl rfl
  · cases h
    exact .inr rfl
  · dsimp only at h
    split at h
    · cases h
      exact .inl rfl
    · split at h
      · cases h
        exact .inl rfl
      · cases h

theorem fileSettings_error_kind {text : String} {f : Failure} (h : fileSettings text = .error f) :
    f.OfLoad := by
  unfold fileSettings at h
  split at h
  · cases h
    exact validateFile_error_kind (by assumption)
  · cases h
  · dsimp only at h
    split at h <;> cases h

theorem loadFile_error_kind {c : Config} {t : FileTree} {cwd : List String} {path : String}
    {required : Bool} {f : Failure} (h : c.loadFile t cwd path required = .error f) : f.OfLoad := by
  unfold Config.loadFile at h
  split at h
  · split at h
    · cases h
    · cases h
      exact .inl rfl
  · split at h
    · rename_i f₀ hf₀
      have hk := fileSettings_error_kind hf₀
      split at h <;> cases h <;> simpa [Failure.OfLoad] using hk
    · cases h
      exact .inl rfl
    · exact .inl (FileSettings.applyTo_error_kind h)

theorem loadEnv_error_kind {c : Config} {t : FileTree} {cwd : List String} {env : Environment}
    {file : String} {f : Failure}
    (h : c.loadEnv t cwd env file = .error f) : f.kind = .config := by
  unfold Config.loadEnv at h
  dsimp only at h
  split at h
  · cases h
  · split at h
    · split at h
      · cases h
      · cases h
        rfl
    · split at h
      · cases h
        rfl
      · cases h

theorem Config.validate_error_kind {c : Config} {f : Failure} (h : c.validate = .error f) :
    f.kind = .config := by
  unfold Config.validate at h
  split at h <;> cases h
  rfl

/-- Loading the configuration fails only as a bad configuration or a crash. -/
theorem Config.load_error_kind {flags : Flags} {t : FileTree} {cwd : List String}
    {env : Environment} {f : Failure} (h : Config.load flags t cwd env = .error f) : f.OfLoad := by
  unfold Config.load at h
  dsimp only at h
  rcases hfile : defaults.loadFile t cwd _ _ with f₁ | c₁
  · rw [hfile] at h
    cases h
    exact loadFile_error_kind hfile
  · simp only [hfile, bind, Except.bind] at h
    rcases henv : c₁.loadEnv t cwd env _ with f₂ | ⟨c₂, env₂⟩
    · rw [henv] at h
      cases h
      exact .inl (loadEnv_error_kind henv)
    · simp only [henv] at h
      rcases hv : (c₂.apply flags).validate with f₃ | _
      · rw [hv] at h
        cases h
        exact .inl (Config.validate_error_kind hv)
      · simp only [hv] at h
        cases h

/-! ## What a run that nothing ends answers -/

namespace Suite

variable {σ : Type} (s : Suite (SessionM σ))

/-- One step of a run that nothing ends: the first case runs, to some result `r`, and the run
stops there, aborted, or goes on with the others from some session. -/
theorem executeFrom_background_cons (c : Case) (rest : List Case) (o : Outcome) (S : Session σ) :
    ∃ r S', ((s.executeFrom .background (c :: rest) o).run S).1 =
      if !r.passed && s.config.stopOnFirstFailure then ((o.record r).abort, none)
      else ((s.executeFrom .background rest (o.record r)).run S').1 := by
  simp only [executeFrom, Context.background, StateT.run_bind, StateT.run_pure, id_bind_eq,
    id_pure_eq]
  generalize ((s.reporter.caseStarted c).run S).2 = S₁
  generalize (s.runner c).run S₁ = R
  obtain ⟨r, S₂⟩ := R
  generalize ((s.reporter.caseFinished r).run S₂).2 = S₃
  refine ⟨r, ?_⟩
  cases s.progress with
  | none =>
    refine ⟨S₃, ?_⟩
    dsimp only
    split <;> rfl
  | some p =>
    refine ⟨((p.update (o.record r).succeeded ((o.record r).total - (o.record r).succeeded)).run
      S₃).2, ?_⟩
    dsimp only
    simp only [StateT.run_bind, id_bind_eq]
    split <;> rfl

/-- A run that nothing ends goes through its cases until one fails under the stopping rule: it
answers no error, counts every case it ran as a success or a failure, is aborted exactly when it
stopped at a failure, and adds a case to the tally for each case it ran, so at least one when
there was one. -/
theorem executeFrom_background : ∀ (cs : List Case) (o : Outcome) (S : Session σ),
    o.succeeded + o.failed.length = o.total → o.aborted = false →
    (s.config.stopOnFirstFailure = true → o.failed = []) →
    let R := ((s.executeFrom .background cs o).run S).1
    R.2 = none ∧ R.1.succeeded + R.1.failed.length = R.1.total ∧
      (R.1.aborted = true ↔ s.config.stopOnFirstFailure = true ∧ R.1.failed ≠ []) ∧
      o.total ≤ R.1.total ∧ (R.1.total = o.total ↔ cs = [])
  | [], o, S, hcount, hrun, hstop => by
    simp only [executeFrom, StateT.run_bind, StateT.run_pure, id_bind_eq, id_pure_eq]
    refine ⟨trivial, hcount, ?_, Nat.le_refl _, by simp⟩
    simp only [hrun, Bool.false_eq_true, false_iff, not_and, ne_eq, Decidable.not_not]
    exact hstop
  | c :: rest, o, S, hcount, hrun, hstop => by
    obtain ⟨r, S', h⟩ := s.executeFrom_background_cons c rest o S
    dsimp only
    rw [h]
    have hcount' : (o.record r).succeeded + (o.record r).failed.length = (o.record r).total := by
      by_cases hr : r.passed = true <;> simp [hr] <;> omega
    split
    · -- stopped at the failure of `c`
      rename_i hfail
      simp only [Bool.and_eq_true, Bool.not_eq_true'] at hfail
      refine ⟨rfl, hcount', ?_, by simp [Outcome.abort], by simp [Outcome.abort]⟩
      simp [Outcome.abort, hfail.1, hfail.2]
    · -- `c` passed, or the run goes on past failures
      rename_i hgo
      have hstop' : s.config.stopOnFirstFailure = true → (o.record r).failed = [] := by
        intro hs
        have hr : r.passed = true := by simpa [hs] using hgo
        simp [hr, hstop hs]
      obtain ⟨hnone, hcnt, hab, hle, -⟩ :=
        executeFrom_background rest (o.record r) S' hcount' (by simp [hrun]) hstop'
      refine ⟨hnone, hcnt, hab, ?_, ?_⟩
      · simp only [Outcome.record_total] at hle
        omega
      · simp only [Outcome.record_total] at hle
        simp only [reduceCtorEq, iff_false]
        omega

/-- The tally of a run that nothing ends, from the empty tally: no error, every case run counted
as a success or a failure, aborted exactly when a case failed under the stopping rule, and no
case counted only when there was none. -/
theorem execute_background (cases : List Case) (S : Session σ) :
    let R := ((s.execute .background cases).run S).1
    R.2 = none ∧ R.1.succeeded + R.1.failed.length = R.1.total ∧
      (R.1.aborted = true ↔ s.config.stopOnFirstFailure = true ∧ R.1.failed ≠ []) ∧
      (R.1.total = 0 ↔ cases = []) := by
  have hrun := s.executeFrom_background cases .empty S rfl rfl (fun _ => rfl)
  have hfst : ((s.execute .background cases).run S).1 =
      ((s.executeFrom .background cases .empty).run S).1 := by
    simp only [execute, StateT.run_bind, id_bind_eq]
    cases s.progress <;> simp
  rw [hfst]
  obtain ⟨hnone, hcount, habort, -, htotal⟩ := hrun
  exact ⟨hnone, hcount, habort, htotal⟩

/-- A plan fails only when a group cannot be scanned. -/
theorem plan_error_kind {m : Type → Type} (s : Suite m) {t : FileTree} {cwd : List String}
    {groups : List Group} {f : Failure} (h : s.plan t cwd groups = .error f) :
    f.kind = .discovery := by
  rcases s.plan_cases_or_first_failure t cwd groups with
    ⟨names, hok, -⟩ | ⟨pre, g, post, f', -, -, -, hk, herr⟩
  · rw [hok] at h
    cases h
  · rw [herr] at h
    cases h
    simpa using hk

/-- Preparing fails only when the workspace cannot be set up or a group cannot be scanned. -/
theorem prepare_error_kind {groups : List Group} {S S₁ : Session σ} {f : Failure}
    (h : (s.prepare groups).run S = (.error f, S₁)) :
    f.kind = .discovery ∨ f.kind = .workspace := by
  rcases hw : s.workspace.prepare S.tree S.cwd groups with ⟨t', _ | f'⟩
  · rw [prepare_run_of_ready s groups S hw] at h
    exact .inl (s.plan_error_kind (congrArg Prod.fst h))
  · rw [prepare_run_of_failure s groups S hw] at h
    cases h
    exact .inr (Workspace.prepare_failure_kind hw)

end Suite

/-- The exit status of a tally that counts every case as a success or a failure: 255 when the
run was aborted, 0 when some case ran and none failed, and 1 otherwise. -/
theorem Outcome.exitCode_of_counted {o : Outcome} (h : o.succeeded + o.failed.length = o.total) :
    o.exitCode = if o.aborted then 255 else if 0 < o.total ∧ o.failed = [] then 0 else 1 := by
  have hsame : o.succeeded = o.total ↔ o.failed = [] := by
    rw [← List.length_eq_zero_iff]
    omega
  simp only [Outcome.exitCode, gt_iff_lt, hsame]

end Regress
