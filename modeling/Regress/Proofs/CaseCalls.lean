import Regress.Proofs.Transcripts
import Regress.Proofs.Rewrites

/-!
# What one case hands its tools

A case run calls its compiler once and then, if both the input and the transcript open, its
interpreter once. To see those calls and what goes with them, a toolchain is run `traced`: every
call it gets is noted, in order, beside its own state.

The interpreter reads, on standard input, the input as it is once the transcript has been
emptied. Two paths that differ as text may lead to one node (through `..`, or one through the
working directory and one from the root), and when the input and the transcript do, the
interpreter reads nothing, whatever the input held before (`readFile_after_writeFile`,
`run_case_steps`).
-/

namespace Regress

variable {σ : Type}

/-! ## The nodes a path goes through -/

namespace FileTree

theorem walk_passage_dir {t : FileTree} {cur : List String} {es : List String}
    {r : List String × Option String} (h : t.walk cur es = .ok r) :
    ∀ q ∈ passage cur es, t.get? q = some .dir := by
  fun_induction walk t cur es with
  | case1 => simp [passage]
  | case2 | case3 | case4 | case5 => simp [passage]
  | case6 cur e rest hrest hdot ih =>
    cases rest with
    | nil => exact absurd rfl hrest
    | cons e' rest =>
      simp only [passage, hdot, ↓reduceIte]
      exact ih h
  | case7 cur e rest hrest hdot hup ih =>
    cases rest with
    | nil => exact absurd rfl hrest
    | cons e' rest =>
      simp only [passage, hdot, hup, Bool.false_eq_true, ↓reduceIte]
      exact ih h
  | case8 => cases h
  | case9 cur e rest hrest hdot hup hlong hd ih =>
    cases rest with
    | nil => exact absurd rfl hrest
    | cons e' rest =>
      simp only [passage, hdot, hup, Bool.false_eq_true, ↓reduceIte, List.mem_cons,
        forall_eq_or_imp]
      exact ⟨hd, ih h⟩
  | case10 => cases h
  | case11 => cases h

theorem openRead_way_dir {t : FileTree} {cwd : List String} {p : String} {n : Node}
    (h : t.openRead cwd p = .ok n) : ∀ q ∈ way cwd p, t.get? q = some .dir := by
  have hloc : ∃ pl, t.locate cwd p = .ok pl := by
    unfold openRead stat at h
    rcases hl : t.locate cwd p with e | pl
    · simp [hl] at h
    · exact ⟨pl, rfl⟩
  obtain ⟨pl, hloc⟩ := hloc
  exact walk_passage_dir (locate_ok hloc).2

/-! ## Reading after a write -/

theorem openRead_ok_iff {t : FileTree} {cwd : List String} {p : String} {n : Node} :
    t.openRead cwd p = .ok n ↔ t.stat cwd p = .ok n := by
  unfold openRead
  cases t.stat cwd p <;> simp

/-- Emptying a file through another path that leads to it: the path reads what was written. -/
theorem readFile_of_writeFile_alias {t t' : FileTree} {cwd : List String} {p q c text : String}
    {x : Bool} (hopen : t.openRead cwd q = .ok (.file text x)) (hw : t.writeFile cwd p c = .ok t')
    (heq : target cwd q = target cwd p) : t'.readFile cwd q = .ok c := by
  have hstat := openRead_ok_iff.mp hopen
  have hget : t.get? (target cwd q) = some (.file text x) := stat_file hstat
  obtain ⟨x', rfl, hne⟩ := writeFile_target hw
  rcases hloc : t.locate cwd q with e | pl
  · simp [stat, hloc] at hstat
  · have hfull := locate_full hloc
    have hslash : pl.trailingSlash = false := by
      simpa [stat, hloc, hfull, hget] using hstat
    -- the file written is no directory, so every directory on the way stays
    have hloc' : (t.set (target cwd p) (.file c x')).locate cwd q = .ok pl :=
      locate_of_dirs_kept (nameSize_set _ _ _) (fun _ => get?_set_file_dir (by simp [← heq, hget]))
        hloc
    simp [readFile, stat, hloc', hfull, heq, get?_set_self _ hne, hslash]

/-- Creating one file keeps what another path reads, when that path can be opened and leads
to another node: the file created is no directory, so the path does not go through it. -/
theorem readFile_of_writeFile_other {t t' : FileTree} {cwd : List String} {p q c : String}
    {n : Node} (hopen : t.openRead cwd q = .ok n) (hw : t.writeFile cwd p c = .ok t')
    (hne : target cwd q ≠ target cwd p) : t'.readFile cwd q = t.readFile cwd q := by
  rw [writeFile_eq_update] at hw
  rcases hu : t.update cwd p c with e | w
  · simp [hu, Except.map] at hw
  · simp only [hu, Except.map, Except.ok.injEq] at hw
    subst hw
    have hwrite := update_isWrite hu
    have hfst := update_fst hu
    refine (ahead_set hwrite).readFile_eq (fun r hr hrw => ?_) (fun h => hne (h.trans hfst))
    -- the way to `q` goes through directories, and the write leaves no directory
    have hdir := openRead_way_dir hopen r hr
    exact (Pending.ne_dir hwrite).1 (hrw ▸ hdir)

/-- What a path that opened as a file reads once a file is written: what was written when it
leads to the same node, and what it held before otherwise. -/
theorem readFile_after_writeFile {t t' : FileTree} {cwd : List String} {p q c text : String}
    {x : Bool} (hopen : t.openRead cwd q = .ok (.file text x)) (hw : t.writeFile cwd p c = .ok t') :
    t'.readFile cwd q = .ok (if target cwd q = target cwd p then c else text) := by
  by_cases heq : target cwd q = target cwd p
  · rw [if_pos heq]
    exact readFile_of_writeFile_alias hopen hw heq
  · rw [if_neg heq, readFile_of_writeFile_other hopen hw heq]
    simp [readFile, openRead_ok_iff.mp hopen]

end FileTree

/-! ## Noting the calls -/

@[simp] theorem Session.first_beside {β : Type} (S : Session σ) (b : β) : (S.beside b).first = S :=
  rfl

@[simp] theorem Session.first_with_tree {β : Type} (S : Session (σ × β)) (t : FileTree) :
    { S with tree := t }.first = { S.first with tree := t } :=
  rfl

/-- A call a case run makes on its tools, with what it hands them. -/
inductive ToolCall where
  | compile (source dir : String)
  | interpret (artifact : String) (input : Stdin) (transcript : String)
  deriving Repr, DecidableEq

/-- The toolchain `tc` with every call it gets noted, in order, beside its own state. -/
def Toolchain.traced (tc : Toolchain σ) : Toolchain (σ × List ToolCall) where
  compile left source dir := do
    Session.updateTools fun tools => (tools.1, tools.2 ++ [.compile source dir])
    Session.lift (tc.compile left source dir)
  interpret left artifact input transcript := do
    Session.updateTools fun tools => (tools.1, tools.2 ++ [.interpret artifact input transcript])
    Session.lift (tc.interpret left artifact input transcript)

namespace Toolchain

variable (tc : Toolchain σ)

@[simp] theorem run_traced_compile (left : Option Nat) (source dir : String)
    (S : Session (σ × List ToolCall)) :
    (tc.traced.compile left source dir).run S =
      (((tc.compile left source dir).run S.first).1,
        ((tc.compile left source dir).run S.first).2.beside (S.tools.2 ++ [.compile source dir])) :=
  rfl

@[simp] theorem run_traced_interpret (left : Option Nat) (artifact : String) (input : Stdin)
    (transcript : String) (S : Session (σ × List ToolCall)) :
    (tc.traced.interpret left artifact input transcript).run S =
      (((tc.interpret left artifact input transcript).run S.first).1,
        ((tc.interpret left artifact input transcript).run S.first).2.beside
          (S.tools.2 ++ [.interpret artifact input transcript])) :=
  rfl

end Toolchain

/-! ## One case -/

namespace Transcript

variable {t : FileTree} {cwd : List String} {expected actual : String}

theorem agree_of_ok {want got : String} (hwant : t.readFile cwd expected = .ok want)
    (hgot : t.readFile cwd actual = .ok got) : agree t cwd expected actual = .ok (want == got) := by
  simp [agree, hwant, hgot]

theorem agree_of_error
    (h : (∃ e, t.readFile cwd expected = .error e) ∨ ∃ e, t.readFile cwd actual = .error e) :
    ∃ f, agree t cwd expected actual = .error f := by
  unfold agree
  rcases h with ⟨e, he⟩ | ⟨e, he⟩
  · simp [he]
  · cases hwant : t.readFile cwd expected <;> simp [he]

end Transcript

namespace Runner

/-- The result of a case from what the compiler answered (`C`) and what opening the files and
running the interpreter gave (`E`): an interpreter failure with the interpreter's status and
error when there is an error or a status other than 0, and otherwise the comparison of the
transcripts in the session `E` left. -/
theorem run_fst (tc : Toolchain σ) (timeout : Duration) (c : Case) (S : Session σ) :
    let C := (tc.compile timeout.timeLeft c.source c.artifactDir).run S
    let E := (execute tc (timeout.timeLeft.map (· - C.1.2)) c).run C.2
    ((run tc timeout c).run S).1 =
      if E.1.2.isSome || E.1.1 != 0 then ⟨c, .interpreterFailure, E.1.1, E.1.2, C.1.1⟩
      else match Transcript.agree E.2.tree E.2.cwd c.expected c.actual with
        | .error f => ⟨c, .outputMismatch, E.1.1, some f.message, C.1.1⟩
        | .ok b => ⟨c, if b then .success else .outputMismatch, E.1.1, none, C.1.1⟩ := by
  dsimp only
  simp only [run, StateT.run_bind, id_bind_eq]
  generalize (tc.compile timeout.timeLeft c.source c.artifactDir).run S = C
  obtain ⟨⟨ce, took⟩, S₁⟩ := C
  generalize (execute tc (timeout.timeLeft.map (· - took)) c).run S₁ = E
  obtain ⟨⟨code, err⟩, S₂⟩ := E
  dsimp only
  split
  · rfl
  · simp only [StateT.run_bind, StateT.run_get, id_bind_eq]
    split <;> rename_i h
    all_goals
      have h' : Transcript.agree S₂.tree S₂.cwd c.expected c.actual = _ := h
      simp [h']

variable (tc : Toolchain σ) (left : Option Nat) (c : Case)

theorem execute_of_open_error (S : Session σ) {e : FsError}
    (h : S.tree.openRead S.cwd c.input = .error e) :
    (execute tc left c).run S = ((-1, some ("open input: " ++ e.message)), S) := by
  simp [execute, h]

theorem execute_of_create_error (S : Session σ) {n : Node} {e : FsError}
    (hopen : S.tree.openRead S.cwd c.input = .ok n)
    (hw : S.tree.writeFile S.cwd c.actual "" = .error e) :
    (execute tc left c).run S = ((-1, some ("create output: " ++ e.message)), S) := by
  simp [execute, hopen, hw]

/-- Once both files open, a traced run of the files notes one interpretation, of a directory
as itself and of a file as the input reads once the transcript is empty, and answers with its
status and error as closing the transcript leaves them. -/
theorem execute_traced (S : Session (σ × List ToolCall)) {n : Node} {t : FileTree}
    (hopen : S.tree.openRead S.cwd c.input = .ok n)
    (hw : S.tree.writeFile S.cwd c.actual "" = .ok t) :
    ∃ input : Stdin, (n = .dir → input = .directory) ∧
      (∀ text x, n = .file text x →
        input = .text ((t.readFile S.cwd c.input).toOption.getD "")) ∧
      let I := (tc.interpret left c.artifact input c.actual).run { S.first with tree := t }
      ((execute tc.traced left c).run S).1 =
        closeOutput c.actual (S.tree.closeFault S.cwd c.actual) I.1.exitCode I.1.error ∧
      ((execute tc.traced left c).run S).2.tools.2 =
        S.tools.2 ++ [.interpret c.artifact input c.actual] := by
  cases n
  case' dir => refine ⟨.directory, fun _ => rfl, fun _ _ h => (by cases h), ?_⟩
  case' file text x =>
    refine ⟨.text ((t.readFile S.cwd c.input).toOption.getD ""), fun h => (by cases h),
      fun _ _ _ => rfl, ?_⟩
  -- the interpretation is run once, on the session with the emptied transcript; what follows
  -- writes its output into the transcript and leaves the notes as they are
  all_goals
    simp only [execute, Session.setTree, bind_pure_comp, StateT.run_bind, StateT.run_get,
      id_pure_eq, id_bind_eq, hopen, hw, StateT.run_modify, Toolchain.run_traced_interpret,
      Session.first_with_tree]
    generalize (tc.interpret left c.artifact _ c.actual).run { S.first with tree := t } = J
    obtain ⟨out, S₂⟩ := J
    dsimp only
    split
    · split <;> simp
    · simp


open FileTree

/-- How one case runs, for every compiler and interpreter and every session. The compiler is
called first, once, on the session as it is, and the rest happens in the session `S₁` it
leaves; the result keeps what it answered and nothing else depends on it. If the input cannot
be opened, or then the transcript cannot be created, nothing more is called or changed and the
case fails with status -1 and an error. Otherwise the transcript is emptied and the
interpreter is called once, on the artifact, writing to the transcript, with the input on
standard input: a directory as itself, and a file with the text it held, or with nothing when
the input and the transcript lead to one node. The case takes the interpreter's status; with
an error or a status other than 0 it fails with that error. A transcript that fails to close
turns a run without error into a failure with status -1 and the close's error. Otherwise the
case is judged by the transcripts at the end: one that cannot be read is a mismatch with an
error, and two readable ones pass exactly when they hold the same text. -/
theorem run_case_steps (tc : Toolchain σ) (timeout : Duration) (c : Case)
    (S : Session (σ × List ToolCall)) :
    ∃ ce took S₁,
      (tc.compile timeout.timeLeft c.source c.artifactDir).run S.first = ((ce, took), S₁) ∧
      let R := (Runner.run tc.traced timeout c).run S
      R.1.case = c ∧ R.1.compileError = ce ∧
      ((∃ e, S₁.tree.openRead S₁.cwd c.input = .error e) ∨
          (∃ n e, S₁.tree.openRead S₁.cwd c.input = .ok n ∧
            S₁.tree.writeFile S₁.cwd c.actual "" = .error e) →
        R.2 = S₁.beside (S.tools.2 ++ [.compile c.source c.artifactDir]) ∧
        R.1.verdict = .interpreterFailure ∧ R.1.exitCode = -1 ∧ R.1.error.isSome) ∧
      ∀ n t, S₁.tree.openRead S₁.cwd c.input = .ok n →
        S₁.tree.writeFile S₁.cwd c.actual "" = .ok t →
        t.readFile S₁.cwd c.actual = .ok "" ∧
        ∃ input : Stdin, (n = .dir → input = .directory) ∧
          (∀ text x, n = .file text x → input =
            .text (if target S₁.cwd c.input = target S₁.cwd c.actual then "" else text)) ∧
          let I := (tc.interpret (timeout.timeLeft.map (· - took)) c.artifact input c.actual).run
            { S₁ with tree := t }
          R.2.tools.2 = S.tools.2 ++
            [.compile c.source c.artifactDir, .interpret c.artifact input c.actual] ∧
          (S₁.tree.closeFault S₁.cwd c.actual = none ∨ I.1.error.isSome →
            R.1.exitCode = I.1.exitCode ∧
            (I.1.error.isSome ∨ I.1.exitCode ≠ 0 →
              R.1.verdict = .interpreterFailure ∧ R.1.error = I.1.error)) ∧
          (∀ e, S₁.tree.closeFault S₁.cwd c.actual = some e → I.1.error = none →
            R.1.verdict = .interpreterFailure ∧ R.1.exitCode = -1 ∧
              R.1.error = some ("close output: " ++ (FsError.mk "close" c.actual e).message)) ∧
          (I.1.error = none → I.1.exitCode = 0 → S₁.tree.closeFault S₁.cwd c.actual = none →
            ((∃ e, R.2.tree.readFile R.2.cwd c.expected = .error e) ∨
                (∃ e, R.2.tree.readFile R.2.cwd c.actual = .error e) →
              R.1.verdict = .outputMismatch ∧ R.1.error.isSome) ∧
            ∀ want got, R.2.tree.readFile R.2.cwd c.expected = .ok want →
              R.2.tree.readFile R.2.cwd c.actual = .ok got →
              R.1.verdict = (if want = got then .success else .outputMismatch) ∧
                R.1.error = none) := by
  have hsnd := run_snd tc.traced timeout c S
  have hfst := run_fst tc.traced timeout c S
  simp only [Toolchain.run_traced_compile] at hsnd hfst
  rcases hC : (tc.compile timeout.timeLeft c.source c.artifactDir).run S.first with
    ⟨⟨ce, took⟩, S₁⟩
  simp only [hC] at hsnd hfst
  refine ⟨ce, took, S₁, rfl, ?_⟩
  dsimp only
  generalize (run tc.traced timeout c).run S = R at hsnd hfst ⊢
  obtain ⟨r, R₂⟩ := R
  generalize hE : (execute tc.traced (timeout.timeLeft.map (· - took)) c).run
    (S₁.beside (S.tools.2 ++ [.compile c.source c.artifactDir])) = E at hsnd hfst
  obtain ⟨⟨code, err⟩, S₂⟩ := E
  dsimp only at hsnd hfst ⊢
  subst hsnd hfst
  refine ⟨?case, ?compileError, ?unopened, ?opened⟩
  case case => split <;> (try split) <;> rfl
  case compileError => split <;> (try split) <;> rfl
  case unopened =>
    rintro (⟨e, he⟩ | ⟨n, e, hn, he⟩)
    · rw [execute_of_open_error tc.traced _ c (S₁.beside _) he] at hE
      obtain ⟨⟨rfl, rfl⟩, rfl⟩ := Prod.mk.inj hE
      simp
    · rw [execute_of_create_error tc.traced _ c (S₁.beside _) hn he] at hE
      obtain ⟨⟨rfl, rfl⟩, rfl⟩ := Prod.mk.inj hE
      simp
  case opened =>
    intro n t hn ht
    refine ⟨readFile_of_writeFile ht, ?_⟩
    obtain ⟨input, hdir, hfile, hres, hcalls⟩ := execute_traced tc _ c (S₁.beside _) hn ht
    rw [hE] at hres hcalls
    simp only [Session.beside_cwd, Session.beside_tools, Session.beside_tree,
      Session.first_beside] at hfile hres hcalls
    refine ⟨input, hdir, fun text x hnx => ?_, ?_⟩
    · rw [hfile text x hnx, readFile_after_writeFile (hnx ▸ hn) ht]
      rfl
    · generalize (tc.interpret (timeout.timeLeft.map (· - took)) c.artifact input c.actual).run
        { S₁ with tree := t } = I at hres ⊢
      refine ⟨by simpa using hcalls, fun hkept => ?kept, fun e hfault hnone => ?closed,
        fun hnone hzero hclear => ?judged⟩
      case kept =>
        -- the close either did not fail or found an error already there
        have hpair : closeOutput c.actual (S₁.tree.closeFault S₁.cwd c.actual) I.1.exitCode
            I.1.error = (I.1.exitCode, I.1.error) := by
          rcases hkept with h | h
          · rw [h, closeOutput_none]
          · exact closeOutput_of_isSome h
        rw [hpair] at hres
        obtain ⟨rfl, rfl⟩ := Prod.mk.inj hres
        refine ⟨?code, fun hfail => ?failed⟩
        case code => split <;> (try split) <;> rfl
        case failed =>
          have hif : (I.1.error.isSome || I.1.exitCode != 0) = true := by
            rcases hfail with h | h <;> simp [h]
          rw [if_pos hif]
          exact ⟨rfl, rfl⟩
      case closed =>
        rw [hfault, hnone, closeOutput_of_fault] at hres
        obtain ⟨rfl, rfl⟩ := Prod.mk.inj hres
        exact ⟨rfl, rfl, rfl⟩
      case judged =>
        rw [hclear, closeOutput_none] at hres
        obtain ⟨rfl, rfl⟩ := Prod.mk.inj hres
        have hif : ¬ (I.1.error.isSome || I.1.exitCode != 0) = true := by simp [hnone, hzero]
        rw [if_neg hif]
        refine ⟨fun hbad => ?_, fun want got hwant hgot => ?_⟩
        · obtain ⟨f, hf⟩ := Transcript.agree_of_error hbad
          simp [hf]
        · rw [Transcript.agree_of_ok hwant hgot]
          by_cases h : want = got <;> simp [h]

end Runner

/-- A case whose transcript goes, through `..`, to the directory of its input, and whose input
and transcript share their extension: its input is `corpus/a.in` and its transcript
`../w/corpus/a.in`. -/
def sharedInputCase : Case :=
  Case.resolve "corpus" ⟨"."⟩ "a" ⟨".lama", ".in", ".in", ".bc", "orig"⟩ "../w/corpus" "art"

/-- The corpus of `sharedInputCase` with a line in its input, seen from the directory `w`. -/
def sharedInputSession : Session (Unit × List ToolCall) :=
  { tree := ⟨[(["w"], .dir), (["w", "corpus"], .dir),
      (["w", "corpus", "a.in"], .file "INPUT\n" false)], false, [], []⟩
    cwd := ["w"], tools := ((), []) }

/-- Four paths that differ as text do not keep the input apart from the transcript: emptying
the transcript empties the input, and the interpreter reads nothing. -/
theorem aliased_input_reads_empty :
    let R := (Runner.run (Toolchain.printing "").traced ⟨0⟩ sharedInputCase).run sharedInputSession
    [sharedInputCase.input, sharedInputCase.actual, sharedInputCase.expected,
      sharedInputCase.artifact].Nodup ∧
    sharedInputSession.tree.readFile sharedInputSession.cwd sharedInputCase.input = .ok "INPUT\n" ∧
    R.2.tools.2 = [.compile sharedInputCase.source sharedInputCase.artifactDir,
      .interpret sharedInputCase.artifact (.text "") sharedInputCase.actual] := by
  intro R
  refine ⟨by decide +kernel, by rfl, by decide +kernel⟩

end Regress
