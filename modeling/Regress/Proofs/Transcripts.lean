import Regress.Proofs.Plan

/-!
# Judging a case by its recorded transcript

A case passes when its actual transcript, written from the interpreter's output, agrees with its
expected one. Whether the expected file still holds what was recorded when the run started
depends on every write the run made before the judgement: the directories `prepare` made, and
for every case so far the artifact its compiler left and the actual transcript the runner
wrote.

To name the output of the one interpretation a case makes, a toolchain is run `logged`: its
interpretations are kept in order beside its own state. For tools that write nothing but the
artifact and standard output, one case run moves no directory and changes at most two nodes of
the tree, its artifact and its actual transcript (`run_logged`). A suite's run on the console
announces, runs and reports one case at a time (`loggedSuite_executeFrom_cons`), so the cases
it runs go one after another as `LoggedRun` follows them, the console between them changing
nothing the cases read (`loggedSuite_executeFrom`). Preparing only adds directories, so over a
whole run a case reported as passed printed exactly what its expected file held at the start,
unless that file is the artifact or the actual transcript of the case itself or of a case
before it (`passed_output_was_recorded`).

The exception is not idle: with the actual transcripts written into the expected directory,
each case compares its transcript with itself, and a case passes whatever was recorded
(`run_logged_passes_of_aliased`, `aliased_transcript_passes_unrecorded_output`).
-/

namespace Regress

variable {σ β α : Type}

/-! ## Logging the interpretations -/

def Session.first (S : Session (σ × β)) : Session σ :=
  ⟨S.tree, S.cwd, S.out, S.err, S.progress, S.tools.1⟩

def Session.beside (S : Session σ) (b : β) : Session (σ × β) :=
  ⟨S.tree, S.cwd, S.out, S.err, S.progress, (S.tools, b)⟩

@[simp] theorem Session.first_tree (S : Session (σ × β)) : S.first.tree = S.tree := rfl
@[simp] theorem Session.first_cwd (S : Session (σ × β)) : S.first.cwd = S.cwd := rfl
@[simp] theorem Session.beside_tree (S : Session σ) (b : β) : (S.beside b).tree = S.tree := rfl
@[simp] theorem Session.beside_cwd (S : Session σ) (b : β) : (S.beside b).cwd = S.cwd := rfl
@[simp] theorem Session.beside_tools (S : Session σ) (b : β) : (S.beside b).tools = (S.tools, b) :=
  rfl

/-- Runs a step of a session whose tools keep `σ` in one whose tools keep more; the rest is left
as it was. -/
def Session.lift (x : SessionM σ α) : SessionM (σ × β) α := do
  let S ← get
  let r := x.run S.first
  set (r.2.beside S.tools.2)
  pure r.1

/-- The toolchain `tc` with every interpretation it gives kept, in order, beside its own state. -/
def Toolchain.logged (tc : Toolchain σ) : Toolchain (σ × List Interpretation) where
  compile left source dir := Session.lift (tc.compile left source dir)
  interpret left artifact input transcript := do
    let r ← Session.lift (tc.interpret left artifact input transcript)
    Session.updateTools fun tools => (tools.1, tools.2 ++ [r])
    pure r

namespace Toolchain

variable (tc : Toolchain σ)

@[simp] theorem run_logged_compile (left : Option Nat) (source dir : String)
    (S : Session (σ × List Interpretation)) :
    (tc.logged.compile left source dir).run S =
      (((tc.compile left source dir).run S.first).1,
        ((tc.compile left source dir).run S.first).2.beside S.tools.2) := rfl

@[simp] theorem run_logged_interpret (left : Option Nat) (artifact : String) (input : Stdin)
    (transcript : String) (S : Session (σ × List Interpretation)) :
    (tc.logged.interpret left artifact input transcript).run S =
      (((tc.interpret left artifact input transcript).run S.first).1,
        ((tc.interpret left artifact input transcript).run S.first).2.beside
          (S.tools.2 ++ [((tc.interpret left artifact input transcript).run S.first).1])) := rfl

/-- An interpreter that writes nothing but its standard output: the tree, the working directory
and the console stay as they were. -/
structure InterpretsQuietly : Prop where
  tree : ∀ left artifact input transcript (S : Session σ),
    ((tc.interpret left artifact input transcript).run S).2.tree = S.tree
  cwd : ∀ left artifact input transcript (S : Session σ),
    ((tc.interpret left artifact input transcript).run S).2.cwd = S.cwd
  out : ∀ left artifact input transcript (S : Session σ),
    ((tc.interpret left artifact input transcript).run S).2.out = S.out

/-- A compiler that, asked for the source of `c`, writes nothing but the case's artifact: the
working directory and the console stay, and so does every node but the one the artifact's path
leads to. -/
structure CompilesInPlace (c : Case) : Prop where
  cwd : ∀ left (S : Session σ), ((tc.compile left c.source c.artifactDir).run S).2.cwd = S.cwd
  out : ∀ left (S : Session σ), ((tc.compile left c.source c.artifactDir).run S).2.out = S.out
  tree : ∀ left (S : Session σ) q, q ≠ FileTree.target S.cwd c.artifact →
    ((tc.compile left c.source c.artifactDir).run S).2.tree.get? q = S.tree.get? q

/-- Tools that only print: the compiler leaves nothing and the interpreter prints `text` and
exits with 0. -/
def printing (text : String) : Toolchain Unit :=
  ⟨fun _ _ _ => pure (none, 0), fun _ _ _ _ => pure ⟨0, none, text⟩⟩

theorem printing_interpretsQuietly (text : String) : (printing text).InterpretsQuietly :=
  ⟨fun _ _ _ _ _ => rfl, fun _ _ _ _ _ => rfl, fun _ _ _ _ _ => rfl⟩

theorem printing_compilesInPlace (text : String) (c : Case) : (printing text).CompilesInPlace c :=
  ⟨fun _ _ => rfl, fun _ _ => rfl, fun _ _ _ _ => rfl⟩

end Toolchain

/-! ## One case -/

namespace Runner

@[simp] theorem overwriteFront_empty (w : String) :
    overwriteFront w "" = Utf8.decode (Utf8.octets w) := by
  simp [overwriteFront, Utf8.octets, Utf8.hasRaw]

section Close

variable {actual : String} {fault : Option Errno} {code : Int} {error : Option String}

@[simp] theorem closeOutput_none : closeOutput actual none code error = (code, error) := rfl

theorem closeOutput_of_isSome (h : error.isSome) : closeOutput actual fault code error = (code, error) := by
  cases fault <;> cases error <;> simp_all [closeOutput]

theorem closeOutput_of_fault {e : Errno} :
    closeOutput actual (some e) code none =
      (-1, some ("close output: " ++ (FsError.mk "close" actual e).message)) := rfl

/-- A run gets through the close without error and with status 0 exactly when it had no error,
exited with 0 and the close did not fail. -/
theorem closeOutput_ok_iff :
    (closeOutput actual fault code error).2 = none ∧ (closeOutput actual fault code error).1 = 0 ↔
      error = none ∧ code = 0 ∧ fault = none := by
  cases fault <;> cases error <;> simp [closeOutput]

end Close

variable (tc : Toolchain σ) (timeout : Duration) (c : Case) (S : Session σ)

theorem run_snd :
    ((run tc timeout c).run S).2 =
      ((execute tc (timeout.timeLeft.map (· - ((tc.compile timeout.timeLeft c.source
        c.artifactDir).run S).1.2)) c).run ((tc.compile timeout.timeLeft c.source
          c.artifactDir).run S).2).2 := by
  simp only [run, StateT.run_bind, id_bind_eq]
  split
  · rfl
  · simp only [StateT.run_bind, StateT.run_get, id_bind_eq]
    split <;> rfl

/-- A case passes exactly when its interpreter exits with 0 and no error and the transcripts
agree. -/
theorem run_success_iff :
    let C := (tc.compile timeout.timeLeft c.source c.artifactDir).run S
    let E := (execute tc (timeout.timeLeft.map (· - C.1.2)) c).run C.2
    ((run tc timeout c).run S).1.verdict = .success ↔
      E.1.2 = none ∧ E.1.1 = 0 ∧ Transcript.agree E.2.tree E.2.cwd c.expected c.actual = .ok true := by
  dsimp only
  simp only [run, StateT.run_bind, id_bind_eq]
  generalize (tc.compile timeout.timeLeft c.source c.artifactDir).run S = C
  obtain ⟨⟨ce, took⟩, S₁⟩ := C
  generalize (execute tc (timeout.timeLeft.map (· - took)) c).run S₁ = E
  obtain ⟨⟨code, err⟩, S₂⟩ := E
  dsimp only
  split
  · rename_i hfail
    simp only [StateT.run_pure, id_pure_eq, reduceCtorEq, false_iff]
    rintro ⟨rfl, rfl, -⟩
    simp at hfail
  · rename_i hok
    simp only [Bool.or_eq_true, bne_iff_ne, ne_eq, not_or, Option.isSome_iff_ne_none,
      Decidable.not_not] at hok
    simp only [StateT.run_bind, StateT.run_get, id_bind_eq, hok, true_and]
    -- the verdict is read off the comparison, one branch for each answer
    split <;> simp_all

end Runner

theorem Transcript.agree_true {t : FileTree} {cwd : List String} {expected actual : String}
    (h : Transcript.agree t cwd expected actual = .ok true) :
    ∃ w, t.readFile cwd expected = .ok w ∧ t.readFile cwd actual = .ok w := by
  unfold Transcript.agree at h
  split at h
  · cases h
  · rename_i want hwant
    split at h
    · cases h
    · rename_i got hgot
      have hsame : want = got := by simpa using h
      exact ⟨want, hwant, hsame ▸ hgot⟩

/-- The nodes a case's run may write, as seen from `cwd`: its artifact and its actual
transcript. -/
def Case.written (c : Case) (cwd : List String) : List (List String) :=
  [FileTree.target cwd c.artifact, FileTree.target cwd c.actual]

open FileTree

variable {tc : Toolchain σ} {c : Case}

/-- Opening the input and running the interpreter, with a logging toolchain whose interpreter
writes nothing: either a file could not be opened and nothing changed, or one interpretation
was logged and the actual transcript holds its output, read back as written. -/
theorem execute_logged (hq : tc.InterpretsQuietly) (left : Option Nat) (c : Case)
    (S : Session (σ × List Interpretation)) :
    let R := (Runner.execute tc.logged left c).run S
    (R.1.1 = -1 ∧ R.1.2.isSome = true ∧ R.2 = S) ∨
    ∃ out x, R.1 = Runner.closeOutput c.actual (S.tree.closeFault S.cwd c.actual) out.exitCode
        out.error ∧ R.2.cwd = S.cwd ∧ R.2.out = S.out ∧
      R.2.tools.2 = S.tools.2 ++ [out] ∧
      R.2.tree = S.tree.set (target S.cwd c.actual)
        (.file (Runner.overwriteFront out.output "") x) ∧
      R.2.tree.readFile S.cwd c.actual = .ok (Runner.overwriteFront out.output "") ∧
      target S.cwd c.actual ≠ [] := by
  intro R
  cases hopen : S.tree.openRead S.cwd c.input with
  | error e =>
    left
    simp [R, Runner.execute, hopen]
  | ok opened =>
    cases hw : S.tree.writeFile S.cwd c.actual "" with
    | error e =>
      left
      simp [R, Runner.execute, hopen, hw]
    | ok t =>
      right
      obtain ⟨x, hw'⟩ := writeFile_of_writeFile hw
      obtain ⟨-, -, hne⟩ := writeFile_target hw
      simp only [R, Runner.execute, Session.setTree, bind_pure_comp, StateT.run_bind,
        StateT.run_get, id_pure_eq, id_bind_eq, hopen, hw, StateT.run_modify, StateT.run_map,
        id_map_eq, Toolchain.run_logged_interpret, Session.beside_tree, Session.first_tree,
        Session.beside_cwd, Session.first_cwd, Session.beside_tools, hq.tree, hq.cwd,
        readFile_of_writeFile hw, hw']
      exact ⟨_, x, rfl, trivial, hq.out _ _ _ _ _, rfl, rfl, readFile_of_writeFile (hw' _), hne⟩

/-- What a case run with a logging toolchain can do when its interpreter writes nothing: the
compiler leaves a session `S₁`, and then either a file could not be opened, nothing more
changes and the case fails, or one interpretation is logged, the actual transcript holds its
output, and the case passes exactly when that interpretation exited with 0 and no error and the
transcripts agree. -/
theorem run_logged_cases (hq : tc.InterpretsQuietly) (timeout : Duration)
    (S : Session (σ × List Interpretation)) :
    ∃ S₁ : Session σ,
      (∃ ce, (tc.compile timeout.timeLeft c.source c.artifactDir).run S.first = (ce, S₁)) ∧
      let R := (Runner.run tc.logged timeout c).run S
      (R.2 = S₁.beside S.tools.2 ∧ R.1.verdict ≠ .success) ∨
      ∃ out x, R.2.cwd = S₁.cwd ∧ R.2.out = S₁.out ∧ R.2.tools.2 = S.tools.2 ++ [out] ∧
        R.2.tree = S₁.tree.set (target S₁.cwd c.actual)
          (.file (Runner.overwriteFront out.output "") x) ∧
        R.2.tree.readFile S₁.cwd c.actual = .ok (Runner.overwriteFront out.output "") ∧
        target S₁.cwd c.actual ≠ [] ∧
        (R.1.verdict = .success ↔ out.error = none ∧ out.exitCode = 0 ∧
          S₁.tree.closeFault S₁.cwd c.actual = none ∧
          Transcript.agree R.2.tree S₁.cwd c.expected c.actual = .ok true) := by
  have hsnd := Runner.run_snd tc.logged timeout c S
  have hsucc := Runner.run_success_iff tc.logged timeout c S
  simp only [Toolchain.run_logged_compile] at hsnd hsucc
  rcases hC : (tc.compile timeout.timeLeft c.source c.artifactDir).run S.first with
    ⟨⟨ce, took⟩, S₁⟩
  simp only [hC] at hsnd hsucc
  refine ⟨S₁, ⟨_, rfl⟩, ?_⟩
  have hE := execute_logged hq (timeout.timeLeft.map (· - took)) c (S₁.beside S.tools.2)
  generalize (Runner.execute tc.logged (timeout.timeLeft.map (· - took)) c).run
    (S₁.beside S.tools.2) = E at hsnd hsucc hE
  obtain ⟨⟨code, err⟩, S₂⟩ := E
  dsimp only at hsnd hsucc hE ⊢
  rw [hsnd]
  simp only [Session.beside_cwd, Session.beside_tree, Session.beside_tools] at hE
  rcases hE with ⟨-, hsome, rfl⟩ | ⟨out, x, hres, hcwd₂, hout₂, hlog, htree₂, hread, hne⟩
  · refine .inl ⟨rfl, fun hs => ?_⟩
    obtain ⟨hnone, -, -⟩ := hsucc.1 hs
    simp [hnone] at hsome
  · obtain ⟨rfl, rfl⟩ := Prod.ext_iff.1 hres
    refine .inr ⟨out, x, hcwd₂, hout₂, hlog, htree₂, hread, hne, ?_⟩
    rw [hsucc, hcwd₂, ← and_assoc, Runner.closeOutput_ok_iff, and_assoc, and_assoc]

/-- One case run with a logging toolchain whose compiler writes only the artifact and whose
interpreter writes only its standard output: the working directory and the console stay, the
tree changes at most where the case writes, the case logs what it interpreted, and a case that
passes logged one interpretation that exited with 0 and no error, whose output its expected
transcript holds at the end. -/
theorem run_logged (hc : tc.CompilesInPlace c) (hq : tc.InterpretsQuietly) (timeout : Duration)
    (S : Session (σ × List Interpretation)) :
    let R := (Runner.run tc.logged timeout c).run S
    R.2.cwd = S.cwd ∧ R.2.out = S.out ∧ S.tree.AgreeOff R.2.tree (c.written S.cwd) ∧
    ∃ log, R.2.tools.2 = S.tools.2 ++ log ∧
      (R.1.verdict = .success → ∃ out x, log = [out] ∧ out.exitCode = 0 ∧ out.error = none ∧
        R.2.tree.get? (target S.cwd c.expected) =
          some (.file (Runner.overwriteFront out.output "") x)) := by
  obtain ⟨S₁, ⟨ce, hC⟩, hR⟩ := run_logged_cases hq timeout S
  -- the compiler moved no directory, printed nothing and touched the artifact at most
  have hcwd₁ : S₁.cwd = S.cwd := by
    have h := hc.cwd timeout.timeLeft S.first
    rwa [hC] at h
  have hout₁ : S₁.out = S.out := by
    have h := hc.out timeout.timeLeft S.first
    rwa [hC] at h
  have hart : S.tree.AgreeOff S₁.tree [target S.cwd c.artifact] := fun q hq' => by
    have h := hc.tree timeout.timeLeft S.first q (by simpa using hq')
    rwa [hC] at h
  intro R
  rw [hcwd₁] at hR
  rcases hR with ⟨hR₂, hfail⟩ | ⟨out, x, hcwd₂, hout₂, hlog, htree₂, -, hne, hsucc⟩
  · rw [hR₂]
    exact ⟨hcwd₁, hout₁, hart.mono (by simp [Case.written]), [], by simp,
      fun hs => absurd hs hfail⟩
  · refine ⟨hcwd₂, hout₂.trans hout₁, ?_, [out], hlog, fun hs => ?_⟩
    · rw [htree₂]
      exact (hart.trans (agreeOff_set _ _ _)).mono (by simp [Case.written])
    · obtain ⟨hnone, hzero, -, hagree⟩ := hsucc.1 hs
      obtain ⟨w, hexp, hact⟩ := Transcript.agree_true hagree
      obtain ⟨x₁, hexp'⟩ := readFile_get? hexp
      obtain ⟨x₂, hact'⟩ := readFile_get? hact
      rw [htree₂, get?_set_self _ hne] at hact'
      have hw : w = Runner.overwriteFront out.output "" := by
        simp only [Option.some.injEq, Node.file.injEq] at hact'
        exact hact'.1.symm
      exact ⟨out, x₁, rfl, hzero, hnone, hw ▸ hexp'⟩

/-- A case whose expected transcript is its actual transcript compares that file with itself: it
passes exactly when its interpreter logged a run that exited with 0 and no error, whatever was
recorded. -/
theorem run_logged_passes_of_aliased (hq : tc.InterpretsQuietly) (timeout : Duration)
    (S : Session (σ × List Interpretation)) (halias : c.expected = c.actual) :
    let R := (Runner.run tc.logged timeout c).run S
    ∃ S₁ : Session σ,
      (∃ ce, (tc.compile timeout.timeLeft c.source c.artifactDir).run S.first = (ce, S₁)) ∧
      (R.1.verdict = .success ↔ ∃ out, R.2.tools.2 = S.tools.2 ++ [out] ∧ out.exitCode = 0 ∧
        out.error = none ∧ S₁.tree.closeFault S₁.cwd c.actual = none) := by
  obtain ⟨S₁, hC, hR⟩ := run_logged_cases hq timeout S
  refine ⟨S₁, hC, ?_⟩
  dsimp only at hR ⊢
  rcases hR with ⟨hR₂, hfail⟩ | ⟨out, x, -, -, hlog, -, hread, -, hsucc⟩
  · -- nothing was interpreted: the case fails, and nothing was logged
    rw [hR₂]
    refine ⟨fun hs => absurd hs hfail, ?_⟩
    rintro ⟨out, hlog, -, -⟩
    simp at hlog
  · -- the comparison reads the one transcript twice
    have hagree : Transcript.agree ((Runner.run tc.logged timeout c).run S).2.tree S₁.cwd
        c.expected c.actual = .ok true := by
      rw [halias]
      simp [Transcript.agree, hread]
    rw [hsucc, hlog]
    constructor
    · rintro ⟨hnone, hzero, hclose, -⟩
      exact ⟨out, rfl, hzero, hnone, hclose⟩
    · rintro ⟨out', hlog', hzero, hnone, hclose⟩
      obtain rfl : out = out' := by simpa using hlog'
      exact ⟨hnone, hzero, hclose, hagree⟩

/-! ## A run of cases -/

/-- The session a case left, run to the result and session `R`, once the console has reported
the result and the progress display, when it is shown, has moved to the tally `o`. -/
def Session.reported (R : CaseResult × Session α) (display : Bool) (o : Outcome) : Session α :=
  { R.2 with
    out := R.2.out ++ Console.finished R.1
    progress := R.2.progress ++
      if display then [.counts o.succeeded (o.total - o.succeeded)] else [] }

namespace Toolchain

variable (tc : Toolchain σ) (config : Config) (display : Bool)

/-- The suite that runs its cases with `tc` logged under `config`, reports on the console, and
moves the session's progress display when `display` is set. -/
def loggedSuite : Suite (SessionM (σ × List Interpretation)) where
  config
  runner := Runner.run tc.logged config.timeout
  reporter := Console.reporter
  progress := if display then some Session.progressDisplay else none

/-- One step of a logged run: the first case is announced, runs and is reported, and the run
stops there or goes on with the others. -/
theorem loggedSuite_executeFrom_cons (c : Case) (rest : List Case) (o : Outcome)
    (A : Session (σ × List Interpretation)) :
    ((tc.loggedSuite config display).executeFrom .background (c :: rest) o).run A =
      let R := (Runner.run tc.logged config.timeout c).run
        { A with out := A.out ++ Console.started c }
      let o' := o.record R.1
      if !R.1.passed && config.stopOnFirstFailure then ((o'.abort, none), Session.reported R display o')
      else ((tc.loggedSuite config display).executeFrom .background rest o').run
        (Session.reported R display o') := by
  cases display <;>
    simp [Suite.executeFrom, Context.background, loggedSuite, Console.reporter, Session.print,
      Session.progressDisplay, Session.mark, Session.reported]
  all_goals split <;> rfl

theorem loggedSuite_executeFrom_nil (o : Outcome) (A : Session (σ × List Interpretation)) :
    ((tc.loggedSuite config display).executeFrom .background [] o).run A =
      ((o, none), { A with out := A.out ++ Console.summary o }) := rfl

/-- Executing is running the cases from the empty tally and then finishing the progress display,
which moves nothing but the display. -/
theorem loggedSuite_execute (cases : List Case) (A : Session (σ × List Interpretation)) :
    ((tc.loggedSuite config display).execute .background cases).run A =
      let E := ((tc.loggedSuite config display).executeFrom .background cases .empty).run A
      (E.1, { E.2 with progress := E.2.progress ++ if display then [.finish] else [] }) := by
  cases display
  case false =>
    -- no display: the session is its own update with nothing appended
    simp [Suite.execute, loggedSuite]
    rfl
  case true =>
    simp [Suite.execute, loggedSuite, Session.progressDisplay, Session.mark]

end Toolchain

/-- What running some of `cases` in order, to the results `rs`, did from the session `A` to the
session `B`, the `i`-th case logging the interpretations `logs[i]`: the working directory stayed,
the tree changed at most where one of those cases writes, the log grew by their interpretations,
and a case that passed logged one interpretation that exited with 0 and no error and printed
what its expected transcript held in `A`, unless a case up to it writes there. -/
structure LoggedRun (cases : List Case) (A B : Session (σ × List Interpretation))
    (rs : List CaseResult) (logs : List (List Interpretation)) : Prop where
  length_eq : rs.length = logs.length
  length_le : rs.length ≤ cases.length
  cwd_eq : B.cwd = A.cwd
  agreeOff : A.tree.AgreeOff B.tree ((cases.take rs.length).flatMap (·.written A.cwd))
  tools_eq : B.tools.2 = A.tools.2 ++ logs.flatten
  recorded : ∀ i (hi : i < cases.length) r, rs[i]? = some r → r.passed = true →
    target A.cwd cases[i].expected ∉ (cases.take (i + 1)).flatMap (·.written A.cwd) →
    ∃ out x, logs[i]? = some [out] ∧ out.exitCode = 0 ∧ out.error = none ∧
      A.tree.get? (target A.cwd cases[i].expected) =
        some (.file (Runner.overwriteFront out.output "") x)

namespace LoggedRun

variable {cases rest : List Case} {c : Case} {A A' B : Session (σ × List Interpretation)}
  {rs : List CaseResult} {logs : List (List Interpretation)}

theorem nil (cases : List Case) (hcwd : B.cwd = A.cwd) (htree : B.tree = A.tree)
    (htools : B.tools.2 = A.tools.2) : LoggedRun cases A B [] [] where
  length_eq := rfl
  length_le := Nat.zero_le _
  cwd_eq := hcwd
  agreeOff := htree ▸ AgreeOff.refl _ _
  tools_eq := by simp [htools]
  recorded := by simp

/-- A case that ran from `A` to `A'`, to the result `r` and the log `log`, in front of a run of
the cases after it. -/
theorem cons {r : CaseResult} {log : List Interpretation} (h : LoggedRun rest A' B rs logs)
    (hcwd : A'.cwd = A.cwd)
    (hag : A.tree.AgreeOff A'.tree (c.written A.cwd)) (htools : A'.tools.2 = A.tools.2 ++ log)
    (hpass : r.verdict = .success → ∃ out x, log = [out] ∧ out.exitCode = 0 ∧
      out.error = none ∧ A'.tree.get? (target A.cwd c.expected) =
        some (.file (Runner.overwriteFront out.output "") x)) :
    LoggedRun (c :: rest) A B (r :: rs) (log :: logs) where
  length_eq := by simp [h.length_eq]
  length_le := by simpa using h.length_le
  cwd_eq := h.cwd_eq.trans hcwd
  agreeOff := by
    have hrest := h.agreeOff
    rw [hcwd] at hrest
    exact hag.trans hrest
  tools_eq := by simp [h.tools_eq, htools]
  recorded := by
    intro i hi r' hr' hp hfree
    cases i with
    | zero =>
      obtain rfl : r = r' := by simpa using hr'
      have hs : r.verdict = .success := by simpa [CaseResult.passed] using hp
      obtain ⟨out, x, rfl, hzero, hnone, hget⟩ := hpass hs
      have hout : target A.cwd c.expected ∉ c.written A.cwd := by simpa using hfree
      exact ⟨out, x, rfl, hzero, hnone, (hag _ hout).symm.trans hget⟩
    | succ j =>
      simp only [List.take_succ_cons, List.flatMap_cons, List.mem_append, not_or] at hfree
      have hj : j < rest.length := by simpa using hi
      obtain ⟨out, x, hlog, hzero, hnone, hget⟩ :=
        h.recorded j hj r' (by simpa using hr') hp (by rw [hcwd]; exact hfree.2)
      rw [hcwd] at hget
      exact ⟨out, x, by simpa using hlog, hzero, hnone, (hag _ hfree.1).symm.trans hget⟩

end LoggedRun

namespace Toolchain

variable (tc : Toolchain σ) (config : Config) (display : Bool)

/-- A logged run of cases on the console, from a tally that is not aborted, runs some of them in
order: it does to the session what `LoggedRun` says, counts each case it ran, and shows each of
them announced and reported, followed by the tally unless the run stopped at a failure. -/
theorem loggedSuite_executeFrom (hq : tc.InterpretsQuietly) :
    ∀ (cases : List Case) (o : Outcome) (A : Session (σ × List Interpretation)),
      (∀ c ∈ cases, tc.CompilesInPlace c) → o.aborted = false →
      let R := ((tc.loggedSuite config display).executeFrom .background cases o).run A
      ∃ rs logs, LoggedRun cases A R.2 rs logs ∧ R.1.1.total = o.total + rs.length ∧
        R.2.out = A.out ++
          String.join (List.zipWith (fun c r => Console.started c ++ Console.finished r) cases rs) ++
          (if R.1.1.aborted then "" else Console.summary R.1.1)
  | [], o, A, _, hrun => by
    rw [loggedSuite_executeFrom_nil]
    refine ⟨[], [], LoggedRun.nil [] rfl rfl rfl, rfl, ?_⟩
    simp [hrun]
  | c :: rest, o, A, hc, hrun => by
    rw [loggedSuite_executeFrom_cons]
    obtain ⟨hcwd, hout, hag, log, htools, hpass⟩ :=
      run_logged (hc c List.mem_cons_self) hq config.timeout
        { A with out := A.out ++ Console.started c }
    generalize (Runner.run tc.logged config.timeout c).run
      { A with out := A.out ++ Console.started c } = R at hcwd hout hag htools hpass ⊢
    obtain ⟨r, A₁⟩ := R
    dsimp only at hcwd hout hag htools hpass ⊢
    split
    · -- stopped at the failure of `c`
      refine ⟨[r], [log], (LoggedRun.nil rest rfl rfl rfl).cons hcwd hag htools hpass,
        by simp [Outcome.abort], ?_⟩
      simp [Outcome.abort, Session.reported, hout, String.append_assoc]
    · -- the run goes on with the other cases
      obtain ⟨rs, logs, hran, htotal, hout'⟩ :=
        loggedSuite_executeFrom hq rest (o.record r) (Session.reported (r, A₁) display (o.record r))
          (fun c' h => hc c' (List.mem_cons_of_mem _ h)) (by simp [hrun])
      refine ⟨r :: rs, log :: logs, hran.cons hcwd hag htools hpass, by simp [htotal]; omega, ?_⟩
      rw [hout']
      simp [Session.reported, hout, String.append_assoc]

end Toolchain

/-- A case that a run reports as passed printed what its expected transcript held when the run
started, and its interpreter exited with 0 and no error, provided that transcript is neither the
artifact nor the actual transcript of the case or of a case before it. The run is the suite's
own, from preparing the workspace to the tally, with a logging toolchain whose compiler writes
only the artifact and whose interpreter writes only its standard output: its console shows each
case that ran, announced and reported as `rs` says, the log holds the interpretations of each in
turn, and the transcript is the output's octets read as a text. -/
theorem passed_output_was_recorded (tc : Toolchain σ) (config : Config) (display : Bool)
    (groups : List Group) (S : Session (σ × List Interpretation)) (cases : List Case)
    (hplan : (((tc.loggedSuite config display).prepare groups).run S).1 = .ok cases)
    (hcomp : ∀ c ∈ cases, tc.CompilesInPlace c) (hquiet : tc.InterpretsQuietly) :
    let R := ((tc.loggedSuite config display).run .background groups).run S
    ∃ (rs : List CaseResult) (logs : List (List Interpretation)),
      R.1.1.total = rs.length ∧ R.2.tools.2 = S.tools.2 ++ logs.flatten ∧
      R.2.out = S.out ++
        String.join (List.zipWith (fun c r => Console.started c ++ Console.finished r) cases rs) ++
        (if R.1.1.aborted then "" else Console.summary R.1.1) ∧
      ∀ i (hi : i < cases.length) r, rs[i]? = some r → r.passed = true →
        target S.cwd cases[i].expected ∉ (cases.take (i + 1)).flatMap (·.written S.cwd) →
        ∃ out x, logs[i]? = some [out] ∧ out.exitCode = 0 ∧ out.error = none ∧
          S.tree.get? (target S.cwd cases[i].expected) =
            some (.file (Utf8.decode (Utf8.octets out.output)) x) := by
  intro R
  -- the run executes the plan from the session preparing left, which added directories only
  have hR : R = ((tc.loggedSuite config display).execute .background cases).run
      (((tc.loggedSuite config display).prepare groups).run S).2 :=
    Suite.run_of_prepare_ok hplan
  rw [Suite.prepare_run_snd] at hR
  have hadded : S.tree.DirsAdded
      ((tc.loggedSuite config display).workspace.prepare S.tree S.cwd groups).1 :=
    Workspace.prepare_dirsAdded _ _ _
  obtain ⟨rs, logs, hran, htotal, hout⟩ :=
    tc.loggedSuite_executeFrom config display hquiet cases .empty _ hcomp rfl
  rw [Toolchain.loggedSuite_execute] at hR
  rw [hR]
  refine ⟨rs, logs, by simpa [Outcome.empty] using htotal, hran.tools_eq, hout, ?_⟩
  intro i hi r hr hpass hfree
  obtain ⟨out, x, hlog, hzero, hnone, hget⟩ := hran.recorded i hi r hr hpass hfree
  rw [Runner.overwriteFront_empty] at hget
  exact ⟨out, x, hlog, hzero, hnone, hadded.get?_file_of hget⟩

/-- Two groups, `p` and `q`, of one case each, `a` and `b`, with empty inputs and recorded
transcripts that say `hello`. -/
def helloCorpus : FileTree :=
  { nodes := [(["corpus"], .dir), (["corpus", "p"], .dir),
      (["corpus", "p", "a.lama"], .file "x" false), (["corpus", "p", "a.input"], .file "" false),
      (["corpus", "p", "orig"], .dir), (["corpus", "p", "orig", "a.log"], .file "hello\n" false),
      (["corpus", "q"], .dir),
      (["corpus", "q", "b.lama"], .file "y" false), (["corpus", "q", "b.input"], .file "" false),
      (["corpus", "q", "orig"], .dir), (["corpus", "q", "orig", "b.log"], .file "hello\n" false)] }

def helloSession : Session (Unit × List Interpretation) :=
  ⟨helloCorpus, [], "", "", [], ((), [])⟩

/-- Every actual transcript goes into the directory of the group `q`, beside its expected
directory. -/
def besideConfig : Config :=
  { Config.defaults with corpusRoot := "corpus", outputDir := "corpus/q" }

def helloCases : List Case :=
  [Case.resolve "corpus" ⟨"p"⟩ "a" besideConfig.layout "corpus/q" ".",
    Case.resolve "corpus" ⟨"q"⟩ "b" besideConfig.layout "corpus/q" "."]

theorem helloCorpus_plan :
    ((((Toolchain.printing "hello\n").loggedSuite besideConfig false).prepare
      [⟨"p"⟩, ⟨"q"⟩]).run helloSession).1 = .ok helloCases := by
  let s := (Toolchain.printing "hello\n").loggedSuite besideConfig false
  let P := (s.workspace.prepare helloSession.tree helloSession.cwd [⟨"p"⟩, ⟨"q"⟩]).1
  have hready : (s.workspace.prepare helloSession.tree helloSession.cwd [⟨"p"⟩, ⟨"q"⟩]).2 = none := by
    decide +kernel
  rw [Suite.prepare_run_of_ready _ _ _ (Prod.ext rfl hready)]
  have hp : s.scan P helloSession.cwd ⟨"p"⟩ = .ok ["a"] :=
    Discovery.caseNames_of_unsorted_singleton ⟨["corpus"], some "p", false⟩ (by decide +kernel)
      (by decide +kernel) (by decide +kernel)
  have hq : s.scan P helloSession.cwd ⟨"q"⟩ = .ok ["b"] :=
    Discovery.caseNames_of_unsorted_singleton ⟨["corpus"], some "q", false⟩ (by decide +kernel)
      (by decide +kernel) (by decide +kernel)
  have hscans : ∀ g ∈ [(⟨"p"⟩ : Group), ⟨"q"⟩],
      s.scan P helloSession.cwd g = .ok (if g = ⟨"p"⟩ then ["a"] else ["b"]) := by
    simp only [List.mem_cons, List.not_mem_nil, or_false, forall_eq_or_imp, forall_eq]
    exact ⟨hp, hq⟩
  rw [@Suite.plan_of_scans _ s P helloSession.cwd (fun g => if g = ⟨"p"⟩ then ["a"] else ["b"]) _ hscans]
  exact congrArg Except.ok (by decide +kernel)

/-- Both cases pass and the console reports them and the tally, although the first wrote its
transcript beside the directory the second is judged from: neither expected transcript is
written by a case up to its own, and each passing case printed what its transcript held. -/
theorem hello_output_was_recorded :
    let R := (((Toolchain.printing "hello\n").loggedSuite besideConfig false).run .background
      [⟨"p"⟩, ⟨"q"⟩]).run helloSession
    R.2.out = "Evaluating p/a\nOK\nEvaluating q/b\nOK\nTotal tests: 2, successful: 2\n" ∧
    (∀ i (hi : i < helloCases.length), target [] helloCases[i].expected ∉
      (helloCases.take (i + 1)).flatMap (·.written [])) ∧
    ∃ (rs : List CaseResult) (logs : List (List Interpretation)),
      R.1.1.total = rs.length ∧ R.2.tools.2 = helloSession.tools.2 ++ logs.flatten ∧
      R.2.out = helloSession.out ++
        String.join (List.zipWith (fun c r => Console.started c ++ Console.finished r)
          helloCases rs) ++
        (if R.1.1.aborted then "" else Console.summary R.1.1) ∧
      ∀ i (hi : i < helloCases.length) r, rs[i]? = some r → r.passed = true →
        target helloSession.cwd helloCases[i].expected ∉
          (helloCases.take (i + 1)).flatMap (·.written helloSession.cwd) →
        ∃ out x, logs[i]? = some [out] ∧ out.exitCode = 0 ∧ out.error = none ∧
          helloSession.tree.get? (target helloSession.cwd helloCases[i].expected) =
            some (.file (Utf8.decode (Utf8.octets out.output)) x) := by
  intro R
  refine ⟨?_, by decide +kernel,
    passed_output_was_recorded (Toolchain.printing "hello\n") besideConfig false
      [⟨"p"⟩, ⟨"q"⟩] helloSession helloCases helloCorpus_plan
      (fun c _ => Toolchain.printing_compilesInPlace _ c) (Toolchain.printing_interpretsQuietly _)⟩
  rw [show R = _ from Suite.run_of_prepare_ok helloCorpus_plan, Suite.prepare_run_snd]
  decide +kernel

/-- A corpus with one case `a` at its root, with an empty input and the recorded transcript
`recorded`. -/
def recordedCorpus : FileTree :=
  { nodes := [(["corpus"], .dir), (["corpus", "a.lama"], .file "x" false),
      (["corpus", "a.input"], .file "" false), (["corpus", "orig"], .dir),
      (["corpus", "orig", "a.log"], .file "recorded\n" false)] }

def recordedSession : Session (Unit × List Interpretation) :=
  ⟨recordedCorpus, [], "", "", [], ((), [])⟩

/-- The actual transcripts go into the expected directory. -/
def aliasedConfig : Config :=
  { Config.defaults with corpusRoot := "corpus", outputDir := "corpus/orig" }

theorem recordedCorpus_plan :
    ((((Toolchain.printing "hello\n").loggedSuite aliasedConfig false).prepare [⟨"."⟩]).run
      recordedSession).1 =
        .ok [Case.resolve "corpus" ⟨"."⟩ "a" aliasedConfig.layout "corpus/orig" "."] := by
  let s := (Toolchain.printing "hello\n").loggedSuite aliasedConfig false
  let P := (s.workspace.prepare recordedSession.tree recordedSession.cwd [⟨"."⟩]).1
  have hready : (s.workspace.prepare recordedSession.tree recordedSession.cwd [⟨"."⟩]).2 = none := by
    decide +kernel
  rw [Suite.prepare_run_of_ready _ _ _ (Prod.ext rfl hready)]
  have hscan : s.scan P recordedSession.cwd ⟨"."⟩ = .ok ["a"] :=
    Discovery.caseNames_of_unsorted_singleton ⟨[], some "corpus", false⟩ (by decide +kernel)
      (by decide +kernel) (by decide +kernel)
  rw [@Suite.plan_of_scans _ s P recordedSession.cwd (fun _ => ["a"]) _ (by simpa using hscan)]
  exact congrArg Except.ok (by decide +kernel)

/-- With the actual transcripts written into the expected directory, the run reports its one
case as passed although its one interpretation printed `hello` and its recorded transcript said
`recorded`: the case is judged on the transcript it has just written. -/
theorem aliased_transcript_passes_unrecorded_output :
    let R := (((Toolchain.printing "hello\n").loggedSuite aliasedConfig false).run .background
      [⟨"."⟩]).run recordedSession
    R.2.out = "Evaluating a\nOK\nTotal tests: 1, successful: 1\n" ∧
      R.2.tools.2 = [⟨0, none, "hello\n"⟩] ∧
      recordedCorpus.get? ["corpus", "orig", "a.log"] = some (.file "recorded\n" false) ∧
      Utf8.decode (Utf8.octets "hello\n") ≠ "recorded\n" := by
  intro R
  rw [show R = _ from Suite.run_of_prepare_ok recordedCorpus_plan, Suite.prepare_run_snd]
  decide +kernel

end Regress
