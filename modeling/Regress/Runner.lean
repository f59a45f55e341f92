import Regress.Toolchain
import Regress.Outcome
import Regress.Transcript
import Regress.Duration

/-!
# Running one case

A case runs in three steps:

1. The compiler compiles the source into the case's artifact directory. Its error is kept for
   the report but decides nothing.
2. The input is opened, the actual transcript is created empty, and the interpreter runs the
   artifact with the input on standard input and the transcript on standard output. The input
   is read after the transcript is created, so a case whose input is its own transcript reads
   nothing. A failure to open either file ends the case with status -1. The output is written
   from the start of the transcript, so what the interpreter put into that file by other means
   stays past the end of its output.
3. A case whose interpreter failed or exited with a status other than 0 fails as an
   interpreter failure. Otherwise the transcripts are compared: a difference, or a transcript
   that cannot be read, is an output mismatch.

A time limit of zero means none. A limit shorter than a millisecond has passed before the
tools start; otherwise the interpreter has what the compiler left of it.
-/

namespace Regress

/-- Whether a time limit has passed before a case's tools can start: a limit of zero is none,
and one below a millisecond is too short for any tool to start. -/
def Duration.expiresAtOnce (d : Duration) : Bool :=
  0 < d.nanos && d.nanos < 1000000

/-- The nanoseconds a case's tools have when they start: none for a limit that is not positive,
which is no limit, and none left for one that has passed at once. -/
def Duration.timeLeft (d : Duration) : Option Nat :=
  if d.nanos ≤ 0 then none
  else if d.expiresAtOnce then some 0
  else some d.nanos.toNat

namespace Runner

variable {σ : Type}

/-- The text of a file after `written` was written over it from its start: the octets written,
then those of `under` past them. -/
def overwriteFront (written under : String) : String :=
  let w := Utf8.octets written
  Utf8.decode (w ++ (Utf8.octets under).drop w.length)

/-- The exit status and error of an interpreter's run once its transcript is closed: a close that
fails turns a run without error into status -1 and the close's error. -/
def closeOutput (actual : String) (fault : Option Errno) (code : Int) (error : Option String) :
    Int × Option String :=
  match fault with
  | some e =>
    if error.isNone then (-1, some ("close output: " ++ (FsError.mk "close" actual e).message))
    else (code, error)
  | none => (code, error)

/-- Opens the input, creates the actual transcript, runs the interpreter and closes the
transcript: the exit status and the error, if any. -/
def execute (tc : Toolchain σ) (left : Option Nat) (c : Case) : SessionM σ (Int × Option String) := do
  let s ← get
  match s.tree.openRead s.cwd c.input with
  | .error e => pure (-1, some ("open input: " ++ e.message))
  | .ok opened =>
    match s.tree.writeFile s.cwd c.actual "" with
    | .error e => pure (-1, some ("create output: " ++ e.message))
    | .ok t =>
      Session.setTree t
      let fault := s.tree.closeFault s.cwd c.actual
      let input : Stdin := match opened with
        | .dir => .directory
        | .file _ _ => .text ((t.readFile s.cwd c.input).toOption.getD "")
      let run ← tc.interpret left c.artifact input c.actual
      let s ← get
      -- the interpreter's output goes into the transcript from its start, over whatever the
      -- interpreter put into that file by other means; a transcript it removed stays removed
      match s.tree.readFile s.cwd c.actual with
      | .ok current =>
        match s.tree.writeFile s.cwd c.actual (overwriteFront run.output current) with
        | .ok t => Session.setTree t
        | .error _ => pure ()
      | .error _ => pure ()
      pure (closeOutput c.actual fault run.exitCode run.error)

/-- Compiles, runs and checks one case within the time limit `timeout`. -/
def run (tc : Toolchain σ) (timeout : Duration) (c : Case) : SessionM σ CaseResult := do
  let left := timeout.timeLeft
  let (compileError, took) ← tc.compile left c.source c.artifactDir
  let (code, error) ← execute tc (left.map (· - took)) c
  let result : CaseResult :=
    { case := c, verdict := .success, exitCode := code, error := none, compileError }
  if error.isSome || code != 0 then
    return { result with verdict := .interpreterFailure, error }
  let s ← get
  match Transcript.agree s.tree s.cwd c.expected c.actual with
  | .error f => pure { result with verdict := .outputMismatch, error := some f.message }
  | .ok false => pure { result with verdict := .outputMismatch }
  | .ok true => pure result

end Runner

end Regress
