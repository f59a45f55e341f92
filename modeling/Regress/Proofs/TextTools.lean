import Regress.Proofs.Rewrites
import Regress.Proofs.Transcripts
import Regress.Toolchain.Scripted

/-!
# Tools that read texts

Tools whose every effect is read off texts: compiling builds the artifact's text from the
source's, or refuses, and writes it at a path named by the source and the directory;
interpreting answers from the artifact's text, the input and the transcript's path. Every call
is logged. The scripted tools are such tools (`Scripted.toolchain_eq`).

With such tools, one case's run is a function of the tree it starts on (`caseRun`, `run_caseRun`):
the case's result, the updates it makes to the tree, in order, and whether the interpreter was
called. Two trees that a run cannot tell apart give the same run (`caseRun_congr`): one tree
ahead of the other, at paths that the case neither reads nor goes through, and not at the case's
artifact unless the case writes it before reading it.
-/

namespace Regress

/-- Tools whose every effect is read off texts. -/
structure TextTools where
  /-- The path that the artifact of `source`, compiled into `dir`, is written at. -/
  artifactPath : (source dir : String) → String
  /-- The artifact's text, built from the source's, or the compiler's complaint. -/
  build : String → Except String String
  /-- What the interpreter answers on the artifact's text and the input, writing to the
  transcript. -/
  perform : (artifact : String) → Stdin → (transcript : String) → Interpretation

namespace TextTools

variable (tt : TextTools)

/-- The tools as a toolchain that logs its calls: the compiler reads the source and writes the
artifact it builds, the interpreter reads the artifact and writes nothing. -/
def toolchain : Toolchain CallLog where
  compile _ source dir := do
    Session.updateTools fun l => { l with compiles := l.compiles ++ [(source, dir)] }
    let s ← get
    let failure (m : String) : Option String × Nat := (some ("compile " ++ source ++ ": " ++ m), 0)
    match s.tree.readFile s.cwd source with
    | .error e => pure (failure e.message)
    | .ok text =>
      match tt.build text with
      | .error m => pure (failure m)
      | .ok artifact =>
        match s.tree.writeFile s.cwd (tt.artifactPath source dir) artifact with
        | .error e => pure (failure e.message)
        | .ok t => do
          Session.setTree t
          pure (none, 0)
  interpret _ artifact input transcript := do
    Session.updateTools fun l => { l with runs := l.runs ++ [artifact] }
    let s ← get
    match s.tree.readFile s.cwd artifact with
    | .error e => pure ⟨-1, some ("launch interpreter: " ++ e.message), ""⟩
    | .ok text => pure (tt.perform text input transcript)

end TextTools

/-- The scripted tools of a corpus layout: the artifact is the source's text, written under the
source's name with the artifact extension, and a source marked `#nocompile` is refused. -/
def Scripted.tools (layout : Layout) : TextTools where
  artifactPath source dir :=
    Path.join [dir, Scripted.dropSuffix (Path.base source) layout.sourceExt ++ layout.artifactExt]
  build text := if text.startsWith "#nocompile" then .error "exit status 1" else .ok text
  perform := Scripted.perform

theorem Scripted.toolchain_eq (layout : Layout) :
    Scripted.toolchain layout = (Scripted.tools layout).toolchain := by
  simp only [Scripted.toolchain, TextTools.toolchain, Toolchain.mk.injEq]
  refine ⟨?_, rfl⟩
  funext left source dir
  -- the two compilers differ only in how they refuse a source
  congr 1
  funext u
  congr 1
  funext s
  cases s.tree.readFile s.cwd source with
  | error e => rfl
  | ok text =>
    by_cases h : text.startsWith "#nocompile" = true
    · simp only [Scripted.tools, h, ↓reduceIte]
    · have hbuild : (Scripted.tools layout).build text = .ok text := if_neg h
      simp only [h, Bool.false_eq_true, ↓reduceIte]
      rw [hbuild]
      rfl

/-- The paths that a case's run reads or goes through, from `cwd`: the targets of its source,
input and expected transcript, and the directories on the way to these, to its actual transcript
and to its artifact. -/
def Case.consulted (c : Case) (cwd : List String) : List (List String) :=
  [FileTree.target cwd c.source, FileTree.target cwd c.input, FileTree.target cwd c.expected] ++
    [c.source, c.input, c.expected, c.actual, c.artifact].flatMap (FileTree.way cwd)

theorem Case.way_mem_consulted {c : Case} {cwd : List String} {p : String}
    (hp : p ∈ [c.source, c.input, c.expected, c.actual, c.artifact]) {q : List String}
    (hq : q ∈ FileTree.way cwd p) : q ∈ c.consulted cwd :=
  List.mem_append_right _ (List.mem_flatMap.2 ⟨p, hp, hq⟩)

theorem Case.read_mem_consulted {c : Case} {cwd : List String} {p : String}
    (hp : p ∈ [c.source, c.input, c.expected]) {q : List String}
    (hq : q ∈ FileTree.target cwd p :: FileTree.way cwd p) : q ∈ c.consulted cwd := by
  simp only [List.mem_cons, List.not_mem_nil, or_false] at hp
  rcases List.mem_cons.1 hq with rfl | hq
  · refine List.mem_append_left _ ?_
    rcases hp with rfl | rfl | rfl <;> simp
  · exact Case.way_mem_consulted (by rcases hp with rfl | rfl | rfl <;> simp) hq

theorem FileTree.target_join_of_slash (cwd parts : List String)
    (h : (Path.join parts).toList.getLast? = some '/') : target cwd (Path.join parts) = [] := by
  rw [Path.join_eq_root h]
  rfl

/-- The update that writes `output` over the file at `p` from its start, when the file can be
read and written. -/
def Runner.overwriteUpdates (t : FileTree) (cwd : List String) (p output : String) :
    List (List String × Node) :=
  match t.readFile cwd p with
  | .ok current =>
    match t.update cwd p (Runner.overwriteFront output current) with
    | .ok w => [w]
    | .error _ => []
  | .error _ => []

/-- Writing over a transcript makes no update, or the one update of a write of the path. -/
theorem Runner.overwriteUpdates_cases (t : FileTree) (cwd : List String) (p output : String) :
    Runner.overwriteUpdates t cwd p output = [] ∨
      ∃ content w, t.update cwd p content = .ok w ∧ Runner.overwriteUpdates t cwd p output = [w] := by
  unfold Runner.overwriteUpdates
  split
  · split
    · rename_i w hw
      exact .inr ⟨_, w, hw, rfl⟩
    · exact .inl rfl
  · exact .inl rfl

namespace TextTools

variable (tt : TextTools)

open FileTree

/-! ## One case as a function of the tree -/

/-- What compiling `source` into `dir` does on the tree `t`: the compiler's error, if any, and
the updates it makes, the artifact's or none. -/
def compiled (t : FileTree) (cwd : List String) (source dir : String) :
    Option String × List (List String × Node) :=
  let failure (m : String) : Option String := some ("compile " ++ source ++ ": " ++ m)
  match t.readFile cwd source with
  | .error e => (failure e.message, [])
  | .ok text =>
    match tt.build text with
    | .error m => (failure m, [])
    | .ok artifact =>
      match t.update cwd (tt.artifactPath source dir) artifact with
      | .error e => (failure e.message, [])
      | .ok w => (none, [w])

theorem run_compile (left : Option Nat) (source dir : String) (S : Session CallLog) :
    (tt.toolchain.compile left source dir).run S =
      (((tt.compiled S.tree S.cwd source dir).1, 0),
        { S with tree := S.tree.setAll (tt.compiled S.tree S.cwd source dir).2
                 tools := { S.tools with compiles := S.tools.compiles ++ [(source, dir)] } }) := by
  rcases hr : S.tree.readFile S.cwd source with e | text
  · simp [toolchain, compiled, hr, Session.updateTools]
  · rcases hb : tt.build text with m | artifact
    · simp [toolchain, compiled, hr, hb, Session.updateTools]
    · rcases hu : S.tree.update S.cwd (tt.artifactPath source dir) artifact with e | w
      · simp [toolchain, compiled, hr, hb, hu, Session.updateTools, writeFile_eq_update,
          Except.map]
      · simp [toolchain, compiled, hr, hb, hu, Session.updateTools, Session.setTree,
          writeFile_eq_update, Except.map]

/-- What the interpreter answers when it runs `artifact` on the tree `t`. -/
def interpreted (t : FileTree) (cwd : List String) (artifact : String) (input : Stdin)
    (transcript : String) : Interpretation :=
  match t.readFile cwd artifact with
  | .error e => ⟨-1, some ("launch interpreter: " ++ e.message), ""⟩
  | .ok text => tt.perform text input transcript

theorem run_interpret (left : Option Nat) (artifact : String) (input : Stdin)
    (transcript : String) (S : Session CallLog) :
    (tt.toolchain.interpret left artifact input transcript).run S =
      (tt.interpreted S.tree S.cwd artifact input transcript,
        { S with tools := { S.tools with runs := S.tools.runs ++ [artifact] } }) := by
  rcases hr : S.tree.readFile S.cwd artifact with e | text <;>
    simp [toolchain, interpreted, hr, Session.updateTools]

/-- What the runner does after compiling, on the tree `t`: the interpreter's exit status and
error, the updates made to the transcript, and whether the interpreter ran. -/
def executed (t : FileTree) (cwd : List String) (c : Case) :
    (Int × Option String) × List (List String × Node) × Bool :=
  match t.openRead cwd c.input with
  | .error e => ((-1, some ("open input: " ++ e.message)), [], false)
  | .ok opened =>
    match t.update cwd c.actual "" with
    | .error e => ((-1, some ("create output: " ++ e.message)), [], false)
    | .ok w =>
      let t₁ := t.set w.1 w.2
      let input : Stdin := match opened with
        | .dir => .directory
        | .file _ _ => .text ((t₁.readFile cwd c.input).toOption.getD "")
      let run := tt.interpreted t₁ cwd c.artifact input c.actual
      (Runner.closeOutput c.actual (t.closeFault cwd c.actual) run.exitCode run.error,
        w :: Runner.overwriteUpdates t₁ cwd c.actual run.output, true)

theorem run_execute (left : Option Nat) (c : Case) (S : Session CallLog) :
    (Runner.execute tt.toolchain left c).run S =
      ((tt.executed S.tree S.cwd c).1,
        { S with tree := S.tree.setAll (tt.executed S.tree S.cwd c).2.1
                 tools := { S.tools with runs := S.tools.runs ++
                   if (tt.executed S.tree S.cwd c).2.2 then [c.artifact] else [] } }) := by
  rcases ho : S.tree.openRead S.cwd c.input with e | opened
  · simp [Runner.execute, executed, ho]
  · rcases hw : S.tree.update S.cwd c.actual "" with e | w
    · simp [Runner.execute, executed, ho, hw, writeFile_eq_update, Except.map]
    · simp [Runner.execute, executed, ho, hw, writeFile_eq_update, Except.map, Session.setTree,
        run_interpret]
      generalize tt.interpreted _ _ _ _ _ = run
      rcases hc : (S.tree.set w.1 w.2).readFile S.cwd c.actual with e | current
      · simp [Runner.overwriteUpdates, hc]
      · rcases hu : (S.tree.set w.1 w.2).update S.cwd c.actual
            (Runner.overwriteFront run.output current) with e | w'
        · simp [Runner.overwriteUpdates, hc, hu]
        · simp [Runner.overwriteUpdates, hc, hu]

/-- The result of a case whose interpreter gave `code` and `error`, judged on the tree `t` it
left: an interpreter that failed or exited with another status than 0 fails the case, otherwise
the transcripts are compared. -/
def judged (t : FileTree) (cwd : List String) (c : Case) (code : Int)
    (error compileError : Option String) : CaseResult :=
  let result : CaseResult :=
    { case := c, verdict := .success, exitCode := code, error := none, compileError }
  if error.isSome || code != 0 then { result with verdict := .interpreterFailure, error }
  else
    match Transcript.agree t cwd c.expected c.actual with
    | .error f => { result with verdict := .outputMismatch, error := some f.message }
    | .ok false => { result with verdict := .outputMismatch }
    | .ok true => result

end TextTools

/-- One case's run from a tree: its result, the updates it made to the tree, in order, and
whether it called the interpreter. -/
structure CaseRun where
  result : CaseResult
  updates : List (List String × Node)
  interpreted : Bool

namespace TextTools

variable (tt : TextTools)

open FileTree

/-- One case run by the tools from the tree `t`. -/
def caseRun (t : FileTree) (cwd : List String) (c : Case) : CaseRun :=
  let compile := tt.compiled t cwd c.source c.artifactDir
  let t₁ := t.setAll compile.2
  let execution := tt.executed t₁ cwd c
  { result := judged (t₁.setAll execution.2.1) cwd c execution.1.1 execution.1.2 compile.1
    updates := compile.2 ++ execution.2.1
    interpreted := execution.2.2 }

/-- A case run by the tools is its run from the session's tree: the result, the tree with the
run's updates made, and the calls logged. -/
theorem run_caseRun (timeout : Duration) (c : Case) (S : Session CallLog) :
    (Runner.run tt.toolchain timeout c).run S =
      ((tt.caseRun S.tree S.cwd c).result,
        { S with tree := S.tree.setAll (tt.caseRun S.tree S.cwd c).updates
                 tools := { compiles := S.tools.compiles ++ [(c.source, c.artifactDir)]
                            runs := S.tools.runs ++
                              if (tt.caseRun S.tree S.cwd c).interpreted then [c.artifact]
                              else [] } }) := by
  simp only [Runner.run, Bool.or_eq_true, bne_iff_ne, ne_eq, StateT.run_bind, run_compile,
    run_execute, id_bind_eq, caseRun, judged, setAll_append]
  split
  · rfl
  · simp only [StateT.run_bind, StateT.run_get, id_bind_eq, id_pure_eq]
    -- both sides match on the same comparison, so they take the same branch
    generalize Transcript.agree _ _ c.expected c.actual = agreement
    rcases agreement with f | _ | _ <;> rfl

/-! ## What a case's run writes -/

section Writes

variable {t : FileTree} {cwd : List String}

/-- A compiler fails and writes nothing, or succeeds and writes its artifact with one update. -/
theorem compiled_cases (t : FileTree) (cwd : List String) (source dir : String) :
    ((tt.compiled t cwd source dir).1.isSome ∧ (tt.compiled t cwd source dir).2 = []) ∨
      ∃ artifact w, t.update cwd (tt.artifactPath source dir) artifact = .ok w ∧
        tt.compiled t cwd source dir = (none, [w]) := by
  unfold compiled
  split
  · exact .inl ⟨rfl, rfl⟩
  · split
    · exact .inl ⟨rfl, rfl⟩
    · split
      · exact .inl ⟨rfl, rfl⟩
      · rename_i artifact _ _ w hw
        exact .inr ⟨artifact, w, hw, rfl⟩

theorem compiled_overwrites (source dir : String) :
    Overwrites t (tt.compiled t cwd source dir).2 := by
  rcases tt.compiled_cases t cwd source dir with ⟨-, hnil⟩ | ⟨artifact, w, hw, heq⟩
  · rw [hnil]
    trivial
  · rw [heq]
    exact ⟨update_isWrite hw, trivial⟩

/-- A compiler writes only its artifact, and only when it succeeds. -/
theorem compiled_paths {source dir : String} {w : List String × Node}
    (hw : w ∈ (tt.compiled t cwd source dir).2) :
    w.1 = target cwd (tt.artifactPath source dir) ∧ (tt.compiled t cwd source dir).1 = none := by
  rcases tt.compiled_cases t cwd source dir with ⟨-, hnil⟩ | ⟨artifact, w', hw', heq⟩
  · rw [hnil] at hw
    cases hw
  · simp only [heq, List.mem_singleton] at hw ⊢
    subst hw
    exact ⟨update_fst hw', trivial⟩

theorem mem_compiled_of_ok {source dir : String} (h : (tt.compiled t cwd source dir).1 = none) :
    target cwd (tt.artifactPath source dir) ∈ (tt.compiled t cwd source dir).2.map Prod.fst := by
  rcases tt.compiled_cases t cwd source dir with ⟨hfails, -⟩ | ⟨artifact, w, hw, heq⟩
  · rw [h] at hfails
    cases hfails
  · simp [heq, update_fst hw]

/-- After compiling, a case's run fails before calling the interpreter and writes nothing, or
creates its transcript and then writes the interpreter's output over it. -/
theorem executed_cases (t : FileTree) (cwd : List String) (c : Case) :
    ((tt.executed t cwd c).1.2.isSome ∧ (tt.executed t cwd c).2.1 = []) ∨
      ∃ w output, t.update cwd c.actual "" = .ok w ∧
        (tt.executed t cwd c).2.1 =
          w :: Runner.overwriteUpdates (t.set w.1 w.2) cwd c.actual output := by
  unfold executed
  split
  · exact .inl ⟨rfl, rfl⟩
  · split
    · exact .inl ⟨rfl, rfl⟩
    · rename_i w hw
      exact .inr ⟨w, _, hw, rfl⟩

theorem executed_overwrites (c : Case) : Overwrites t (tt.executed t cwd c).2.1 := by
  rcases tt.executed_cases t cwd c with ⟨-, hnil⟩ | ⟨w, output, hw, heq⟩
  · rw [hnil]
    trivial
  rw [heq]
  refine ⟨update_isWrite hw, ?_⟩
  rcases Runner.overwriteUpdates_cases (t.set w.1 w.2) cwd c.actual output with
    hnil | ⟨content, w', hw', heq'⟩
  · rw [hnil]
    trivial
  · rw [heq']
    exact ⟨update_isWrite hw', trivial⟩

/-- After compiling, a case's run writes only its actual transcript. -/
theorem executed_paths {c : Case} {w : List String × Node} (hw : w ∈ (tt.executed t cwd c).2.1) :
    w.1 = target cwd c.actual := by
  rcases tt.executed_cases t cwd c with ⟨-, hnil⟩ | ⟨w₀, output, hw₀, heq⟩
  · rw [hnil] at hw
    cases hw
  rw [heq] at hw
  rcases List.mem_cons.1 hw with rfl | hw
  · exact update_fst hw₀
  rcases Runner.overwriteUpdates_cases (t.set w₀.1 w₀.2) cwd c.actual output with
    hnil | ⟨content, w', hw', heq'⟩
  · rw [hnil] at hw
    cases hw
  · rw [heq', List.mem_singleton] at hw
    subst hw
    exact update_fst hw'

/-- After compiling, a case's run writes its actual transcript, or fails without comparing
transcripts. -/
theorem executed_wrote_or_error (c : Case) :
    target cwd c.actual ∈ (tt.executed t cwd c).2.1.map Prod.fst ∨
      (tt.executed t cwd c).1.2.isSome := by
  rcases tt.executed_cases t cwd c with ⟨hfails, -⟩ | ⟨w, output, hw, heq⟩
  · exact .inr hfails
  · rw [heq]
    exact .inl (List.mem_cons.2 (.inl (update_fst hw).symm))

theorem caseRun_overwrites (c : Case) : Overwrites t (tt.caseRun t cwd c).updates :=
  overwrites_append.2 ⟨tt.compiled_overwrites _ _, tt.executed_overwrites c⟩

/-- A case's run writes its actual transcript and, when it compiles, its artifact. -/
theorem caseRun_paths {c : Case} (hpath : tt.artifactPath c.source c.artifactDir = c.artifact)
    {w : List String × Node} (hw : w ∈ (tt.caseRun t cwd c).updates) :
    w.1 = target cwd c.actual ∨
      w.1 = target cwd c.artifact ∧ (tt.compiled t cwd c.source c.artifactDir).1 = none := by
  rcases List.mem_append.1 hw with hw | hw
  · obtain ⟨h₁, h₂⟩ := tt.compiled_paths hw
    exact .inr ⟨hpath ▸ h₁, h₂⟩
  · exact .inl (tt.executed_paths hw)

end Writes

/-! ## Trees a case's run cannot tell apart -/

section Congr

variable {t u : FileTree} {Z : List String → Prop} {cwd : List String}

theorem compiled_congr (h : Ahead t u Z) {source dir : String}
    (hsource : ∀ q ∈ target cwd source :: way cwd source, ¬ Z q)
    (hway : ∀ q ∈ way cwd (tt.artifactPath source dir), ¬ Z q)
    (hslash : (tt.artifactPath source dir).toList.getLast? = some '/' →
      target cwd (tt.artifactPath source dir) = []) :
    tt.compiled u cwd source dir = tt.compiled t cwd source dir := by
  have hread := h.readFile_eq (fun q hq => hsource q (List.mem_cons_of_mem _ hq))
    (hsource _ List.mem_cons_self)
  simp only [compiled, hread, h.update_eq hway hslash]

theorem executed_congr (h : Ahead t u Z) {c : Case}
    (hinput : ∀ q ∈ target cwd c.input :: way cwd c.input, ¬ Z q)
    (hways : ∀ q ∈ way cwd c.actual ++ way cwd c.artifact, ¬ Z q)
    (hslash : c.actual.toList.getLast? = some '/' → target cwd c.actual = [])
    (hart : target cwd c.actual = target cwd c.artifact ∨ ¬ Z (target cwd c.artifact)) :
    tt.executed u cwd c = tt.executed t cwd c := by
  have hway_input : ∀ q ∈ way cwd c.input, ¬ Z q := fun q hq => hinput q (List.mem_cons_of_mem _ hq)
  have hway_actual : ∀ q ∈ way cwd c.actual, ¬ Z q := fun q hq => hways q (List.mem_append_left _ hq)
  have hway_art : ∀ q ∈ way cwd c.artifact, ¬ Z q :=
    fun q hq => hways q (List.mem_append_right _ hq)
  unfold executed
  rw [h.openRead_eq hway_input (hinput _ List.mem_cons_self), h.update_eq hway_actual hslash]
  cases t.openRead cwd c.input with
  | error e => rfl
  | ok opened =>
    dsimp only
    cases hw : t.update cwd c.actual "" with
    | error e => rfl
    | ok w =>
      dsimp only
      -- both trees hold the same empty transcript, and it is all the interpreter's run writes
      have hw₁ : w.1 = target cwd c.actual := update_fst hw
      have h₁ := h.set_both (update_isWrite hw)
      have hkeep : ∀ q, ¬ Z q → ¬ (q ≠ w.1 ∧ Z q) := fun q hq hz => hq hz.2
      have hread_input := h₁.readFile_eq (fun q hq => hkeep q (hway_input q hq))
        (hkeep _ (hinput _ List.mem_cons_self))
      have hread_art := h₁.readFile_eq (fun q hq => hkeep q (hway_art q hq)) (by
        rintro ⟨hne, hz⟩
        rcases hart with heq | hnz
        · exact hne (hw₁.trans heq).symm
        · exact hnz hz)
      have hread_actual := h₁.readFile_eq (fun q hq => hkeep q (hway_actual q hq))
        (fun hz => hz.1 hw₁.symm)
      simp only [interpreted, Runner.overwriteUpdates, hread_input, hread_art, hread_actual,
        h₁.update_eq (fun q hq => hkeep q (hway_actual q hq)) hslash, h.closeFault_eq hway_actual]

theorem judged_congr (h : Ahead t u Z) {c : Case}
    (hexpected : ∀ q ∈ target cwd c.expected :: way cwd c.expected, ¬ Z q)
    (hactual : ∀ q ∈ target cwd c.actual :: way cwd c.actual, ¬ Z q) (code : Int)
    (error compileError : Option String) :
    judged u cwd c code error compileError = judged t cwd c code error compileError := by
  have hagree : Transcript.agree u cwd c.expected c.actual =
      Transcript.agree t cwd c.expected c.actual := by
    simp only [Transcript.agree,
      h.readFile_eq (fun q hq => hexpected q (List.mem_cons_of_mem _ hq))
        (hexpected _ List.mem_cons_self),
      h.readFile_eq (fun q hq => hactual q (List.mem_cons_of_mem _ hq))
        (hactual _ List.mem_cons_self)]
  simp only [judged, hagree]

/-- A case's compiler finds the same source and writes the same artifact in a tree ahead, when
the case reads and goes through no path where the trees may differ. -/
theorem compiled_congr_case (h : Ahead t u Z) {c : Case}
    (hconsulted : ∀ q ∈ c.consulted cwd, ¬ Z q)
    (hpath : tt.artifactPath c.source c.artifactDir = c.artifact) :
    tt.compiled u cwd c.source c.artifactDir = tt.compiled t cwd c.source c.artifactDir :=
  tt.compiled_congr h (fun q hq => hconsulted q (Case.read_mem_consulted (by simp) hq))
    (hpath ▸ fun q hq => hconsulted q (Case.way_mem_consulted (by simp) hq))
    (hpath ▸ target_join_of_slash cwd [c.artifactDir, c.name ++ c.artifactExt])

/-- A case's run from a tree ahead of another is its run from the other, when the case reads and
goes through no path where they may differ, and its artifact is one only when the case writes
it first: by compiling it, or as its actual transcript. -/
theorem caseRun_congr (h : Ahead t u Z) {c : Case} (hconsulted : ∀ q ∈ c.consulted cwd, ¬ Z q)
    (hpath : tt.artifactPath c.source c.artifactDir = c.artifact)
    (hslash : c.actual.toList.getLast? = some '/' → target cwd c.actual = [])
    (hart : (tt.compiled t cwd c.source c.artifactDir).1 = none ∨
      target cwd c.actual = target cwd c.artifact ∨ ¬ Z (target cwd c.artifact)) :
    tt.caseRun u cwd c = tt.caseRun t cwd c := by
  have hway (p : String) (hp : p ∈ [c.source, c.input, c.expected, c.actual, c.artifact]) :
      ∀ q ∈ way cwd p, ¬ Z q :=
    fun q hq => hconsulted q (Case.way_mem_consulted hp hq)
  have hread (p : String) (hp : p ∈ [c.source, c.input, c.expected]) :
      ∀ q ∈ target cwd p :: way cwd p, ¬ Z q :=
    fun q hq => hconsulted q (Case.read_mem_consulted hp hq)
  have hC := tt.compiled_congr_case h hconsulted hpath
  have h₁ := h.setAll_both (@compiled_overwrites tt t cwd c.source c.artifactDir)
  have hkeep₁ : ∀ q, ¬ Z q →
      ¬ (q ∉ (tt.compiled t cwd c.source c.artifactDir).2.map Prod.fst ∧ Z q) :=
    fun q hq hz => hq hz.2
  have hE := tt.executed_congr h₁ (fun q hq => hkeep₁ q (hread c.input (by simp) q hq))
    (fun q hq => hkeep₁ q (by
      rcases List.mem_append.1 hq with hq | hq
      · exact hway c.actual (by simp) q hq
      · exact hway c.artifact (by simp) q hq))
    hslash (by
      rcases hart with hok | heq | hnz
      · exact .inr fun hz => hz.1 (hpath ▸ tt.mem_compiled_of_ok hok)
      · exact .inl heq
      · exact .inr fun hz => hnz hz.2)
  have h₂ := h₁.setAll_both (@executed_overwrites tt (t.setAll _) cwd c)
  rcases @executed_wrote_or_error tt (t.setAll _) cwd c with hwrote | herr
  · have hJ := judged_congr h₂ (c := c)
      (fun q hq hz => hread c.expected (by simp) q hq hz.2.2)
      (fun q hq hz => by
        rcases List.mem_cons.1 hq with rfl | hq
        · exact hz.1 hwrote
        · exact hway c.actual (by simp) q hq hz.2.2)
    simp only [caseRun, hC, hE, hJ]
  · simp only [caseRun, hC, hE, judged, herr, Bool.true_or, ↓reduceIte]

end Congr

end TextTools

end Regress
