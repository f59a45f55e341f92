import Regress.Toolchain
import Regress.Process

/-!
# Programs as tools

The toolchain of a real run starts the compiler and the interpreter as programs.

* The compiler runs as `compiler -b SOURCE` inside the artifact directory, with the source's
  absolute path, so the artifact lands in that directory. What it prints goes to the run's own
  standard output and standard error. A compiler that cannot start, or that ends with a status
  other than 0 or by a signal, gives an error naming the source.
* The interpreter runs as `interpreter ARTIFACT` in the run's working directory, with the case's
  input on standard input; its standard output is the actual transcript and its standard
  error goes to the run's. A signal that ends it gives the status -1 and no error. When the
  time limit passes, before it starts or while it runs, the interpreter is reported stopped,
  with what it wrote until then.
* A compiler that the time limit stops is killed, and the time it took is the interpreter's no
  more.

Every program started gets the next process number.
-/

namespace Regress

/-- The state of a toolchain that starts programs: the environment they see and the number of
the next process. -/
structure Launcher where
  env : Environment
  nextPid : Nat := 100
  deriving Repr, Inhabited

namespace Launcher

/-- Takes the number of the next process. -/
def takePid : SessionM Launcher Nat := do
  let s ← get
  let pid := s.tools.nextPid
  Session.updateTools fun l => { l with nextPid := pid + 1 }
  pure pid

/-- Compiles `source` into `dir` with the compiler `compiler`, within the time `left`: the error,
if any, and the nanoseconds the compiler ran. -/
def compile (compiler : String) (left : Option Nat) (source dir : String) :
    SessionM Launcher (Option String × Nat) := do
  let pid ← takePid
  let s ← get
  let abs := Path.absolute ("/" ++ "/".intercalate s.cwd) source
  let launch : Launch := { program := compiler, args := ["-b", abs], dir := some dir }
  match launch.run left s.tree s.cwd s.tools.env pid with
  | .error m => pure (some ("compile " ++ source ++ ": " ++ m), 0)
  | .ok e =>
    Session.setTree e.tree
    Session.print e.out
    Session.printErr e.err
    match e.termination with
    | .exited 0 => pure (none, e.elapsed)
    | t => pure (some ("compile " ++ source ++ ": " ++ t.text), e.elapsed)

/-- The interpretation of an interpreter the deadline stopped, after it wrote `output`. -/
def stopped (output : String) : Interpretation :=
  { exitCode := -1, error := some "interpreter stopped: context deadline exceeded", output }

/-- Runs `artifact` with the interpreter `interpreter` on `input`, within the time `left`. A
directory on standard input reads as empty. -/
def interpret (interpreter : String) (left : Option Nat) (artifact : String) (stdin : Stdin)
    (_transcript : String) : SessionM Launcher Interpretation := do
  if left == some 0 then return stopped ""
  let pid ← takePid
  let s ← get
  let input := match stdin with
    | .text t => t
    | .directory => ""
  let launch : Launch := { program := interpreter, args := [artifact], input }
  match launch.run left s.tree s.cwd s.tools.env pid with
  | .error m => pure { exitCode := -1, error := some ("launch interpreter: " ++ m), output := "" }
  | .ok e =>
    Session.setTree e.tree
    Session.printErr e.err
    if e.timedOut then return stopped e.out
    let code : Int := match e.termination with
      | .exited n => n
      | .signaled _ => -1
    pure { exitCode := code, error := none, output := e.out }

end Launcher

/-- The toolchain that starts `compiler` and `interpreter` as programs. -/
def Launcher.toolchain (compiler interpreter : String) : Toolchain Launcher where
  compile := Launcher.compile compiler
  interpret := Launcher.interpret interpreter

end Regress
