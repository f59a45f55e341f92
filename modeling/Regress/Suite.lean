import Regress.Runner
import Regress.Console
import Regress.Discovery
import Regress.NameFilter
import Regress.Workspace
import Regress.Config.Basic

/-!
# Running a suite

A suite runs the cases of its groups one at a time, in the order of the groups and then of the
names within each group. It talks to three collaborators: the runner of one case, a reporter,
and a progress display, which may be absent. They act in any monad, so a suite can run against
the session of a real run or against collaborators that only record what they are asked.

* **Planning** finds the cases of every group, keeps those whose names pass the name filter,
  and lays out their files. A group that cannot be read fails the plan, naming the group.
* **Preparing** creates the workspace, then plans. Nothing runs when either fails.
* **Executing** runs the planned cases and reports each one, moving the progress display after
  each. The run's context is asked before every case, and a context that has ended stops the
  run with its error. When the run stops at the first failure, the first failing case ends it,
  marked aborted and without a tally; otherwise every case runs and the tally closes the
  report. The progress display is finished however the run ends.
-/

namespace Regress

/-- What a run reports as it goes: the case about to run, the result of a case that ended, and
the tally of a run that went to the end. -/
structure Reporter (m : Type → Type) where
  caseStarted : Case → m Unit
  caseFinished : CaseResult → m Unit
  summary : Outcome → m Unit

/-- A display of the cases done so far: moved with the numbers of passed and failed cases after
each case, and finished at the end of the run. -/
structure Progress (m : Type → Type) where
  update : (succeeded failed : Nat) → m Unit
  finish : m Unit

/-- The context a run goes on in: asked before each case, it answers the error that ended the
run, if something ended it. -/
structure Context (m : Type → Type) where
  err : m (Option Failure)

/-- The context of a run that nothing ends. -/
def Context.background {m : Type → Type} [Pure m] : Context m :=
  ⟨pure none⟩

/-- A suite: the configuration it runs under, the runner of one case, the reporter, and the
progress display when one is set, all acting in the monad `m`. -/
structure Suite (m : Type → Type) where
  config : Config
  runner : Case → m CaseResult
  reporter : Reporter m
  progress : Option (Progress m) := none

namespace Suite

variable {m : Type → Type} {σ : Type}

/-- Where the suite writes its transcripts and artifacts. -/
def workspace (s : Suite m) : Workspace :=
  ⟨s.config.outputDir, s.config.artifactRoot, s.config.scopeArtifacts⟩

/-- The names of the cases of one group, in octet order. -/
def scan (s : Suite m) (t : FileTree) (cwd : List String) (g : Group) :
    Except Failure (List String) :=
  Discovery.caseNames t cwd s.config.sourceExt (g.dir s.config.corpusRoot)

/-- The cases of a group's names that pass the name filter, in the names' order. -/
def casesFor (s : Suite m) (g : Group) (names : List String) : List Case :=
  let c := s.config
  (NameFilter.select c.flags.nameFilter names).map fun n =>
    Case.resolve c.corpusRoot g n c.layout s.workspace.outputDir (s.workspace.artifactDir g)

/-- The cases of one group that pass the name filter, in name order; a group that cannot be
scanned fails, naming the group. -/
def casesOf (s : Suite m) (t : FileTree) (cwd : List String) (g : Group) :
    Except Failure (List Case) :=
  match s.scan t cwd g with
  | .error f => .error (Failure.wrap ("group " ++ g.label) f)
  | .ok names => .ok (s.casesFor g names)

/-- The cases of the groups, in run order; the first group that cannot be read fails. -/
def plan (s : Suite m) (t : FileTree) (cwd : List String) (groups : List Group) :
    Except Failure (List Case) :=
  return (← groups.mapM (s.casesOf t cwd)).flatten

/-- Creates the workspace, then plans the run. -/
def prepare (s : Suite (SessionM σ)) (groups : List Group) :
    SessionM σ (Except Failure (List Case)) := do
  let st ← get
  let (t, failure) := s.workspace.prepare st.tree st.cwd groups
  Session.setTree t
  match failure with
  | some f => pure (.error f)
  | none => pure (s.plan t st.cwd groups)

/-- Runs the cases onto the tally `o`, reporting each one, after asking the context whether the
run has ended. Besides the tally it answers the context's error when that ended the run. -/
def executeFrom [Monad m] (s : Suite m) (ctx : Context m) :
    List Case → Outcome → m (Outcome × Option Failure)
  | [], o => do
    s.reporter.summary o
    pure (o, none)
  | c :: rest, o => do
    match ← ctx.err with
    | some e => pure (o, some e)
    | none =>
      s.reporter.caseStarted c
      let r ← s.runner c
      let o := o.record r
      s.reporter.caseFinished r
      if let some p := s.progress then p.update o.succeeded (o.total - o.succeeded)
      if !r.passed && s.config.stopOnFirstFailure then pure (o.abort, none)
      else s.executeFrom ctx rest o

/-- Runs the planned cases and finishes the progress display, however the run ended. -/
def execute [Monad m] (s : Suite m) (ctx : Context m) (cases : List Case) :
    m (Outcome × Option Failure) := do
  let result ← s.executeFrom ctx cases Outcome.empty
  if let some p := s.progress then p.finish
  pure result

/-- Prepares the groups and runs their cases; a failure to prepare gives the empty tally. -/
def run (s : Suite (SessionM σ)) (ctx : Context (SessionM σ)) (groups : List Group) :
    SessionM σ (Outcome × Option Failure) := do
  match ← s.prepare groups with
  | .error f => pure (Outcome.empty, some f)
  | .ok cases => s.execute ctx cases

end Suite

/-- The console as a run's reporter: each report printed on standard output. -/
def Console.reporter {σ : Type} : Reporter (SessionM σ) where
  caseStarted c := Session.print (Console.started c)
  caseFinished r := Session.print (Console.finished r)
  summary o := Session.print (Console.summary o)

/-- The progress display of a session: each move kept in order. -/
def Session.progressDisplay {σ : Type} : Progress (SessionM σ) where
  update succeeded failed := Session.mark (.counts succeeded failed)
  finish := Session.mark .finish

end Regress
