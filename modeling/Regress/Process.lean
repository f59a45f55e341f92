import Regress.Shell.Eval
import Regress.Environment
import Regress.Text.Escape

/-!
# Starting programs

How a program named on the command line is found, started and run to its end.

* **Finding.** A name without a slash is looked up in the directories of `PATH`, in order; the
  first executable file wins. One found through a relative directory is refused, since running
  it would depend on the working directory. A name with a slash is used as it is.
* **Starting.** A deadline that has passed stops the start; one that passes while the program
  runs kills it. The directory to run in must exist.
  The file must be executable, and a script must name its interpreter on its first line: a
  file without one has no format the system can execute.
* **Running.** The program runs as a process of the shell model: a shell script on the shell,
  a program of the system as itself. It is called by the name it was given, and sees `PWD` set
  to the directory it runs in. It sees octets: its arguments, environment, input and files are
  handed over as octet texts, and what it writes and leaves comes back as texts.

A failure to start is reported in the words of the command runner: the name and the reason, or
the operation, the path and the system's reason.
-/

namespace Regress

/-- Whether a path names a file that may be executed. -/
def isExecutableFile (t : FileTree) (cwd : List String) (path : String) : Bool :=
  match Shell.targetAt t cwd path with
  | .ok (.file _ x) => x
  | .ok (.system _) => true
  | _ => false

/-- The directories of a search path; an empty element is the working directory. -/
def searchDirs (searchPath : String) : List String :=
  if searchPath.isEmpty then []
  else (searchPath.splitOn ":").map fun d => if d.isEmpty then "." else d

/-- Finds a program by name in the directories of the search path. -/
def lookPath (t : FileTree) (cwd : List String) (searchPath name : String) :
    Except String String :=
  match (searchDirs searchPath).find? (fun d => isExecutableFile t cwd (Path.join [d, name])) with
  | some d =>
    let p := Path.join [d, name]
    if Path.isAbs p then .ok p
    else .error ("exec: " ++ Escape.quoted name ++
      ": cannot run executable found relative to current directory")
  | none => .error ("exec: " ++ Escape.quoted name ++ ": executable file not found in $PATH")

/-- The command runner's name of a signal: its description, with the first letter of a word
in lower case. -/
def signalName (n : Nat) : String :=
  match Shell.signalInfo? n with
  | some i =>
    match i.description.toList with
    | c :: d :: rest =>
      if 'a' ≤ d && d ≤ 'z' && 'A' ≤ c && c ≤ 'Z' then String.ofList (Char.ofNat (c.toNat + 32) :: d :: rest)
      else i.description
    | _ => i.description
  | none => "signal " ++ toString n

/-- How a process ended, as the command runner reports it. -/
def Shell.Termination.text : Shell.Termination → String
  | .exited n => "exit status " ++ toString n
  | .signaled s => "signal: " ++ signalName s

/-- A program to start: the name it is called by, its arguments, the directory to run it in
(relative to the caller's, or the caller's own) and its standard input. -/
structure Launch where
  program : String
  args : List String
  dir : Option String := none
  input : String := ""
  deriving Repr, Inhabited

/-- Where the launch finds its program: the path it executes, or why it is not found. -/
def Launch.resolve (l : Launch) (t : FileTree) (cwd : List String) (env : Environment) :
    Except String String :=
  if l.program.isEmpty then .error "exec: no command"
  else if Path.base l.program == l.program then lookPath t cwd (env.getD "PATH") l.program
  else .ok l.program

/-- The working directory of the started program, or the failure to enter it. -/
def Launch.directory (l : Launch) (t : FileTree) (cwd : List String) (path : String) :
    Except String (List String) :=
  match l.dir with
  | none => .ok cwd
  | some d =>
    match t.stat cwd d with
    | .error e => .error ("chdir " ++ d ++ ": " ++ e.text)
    | .ok (.file _ _) => .error ("fork/exec " ++ path ++ ": not a directory")
    | .ok .dir =>
      match t.locate cwd d with
      | .ok pl => .ok pl.full
      | .error e => .error ("chdir " ++ d ++ ": " ++ e.text)

/-- The process number of the runner itself, the parent of the programs it starts. -/
def runnerPid : Nat := 99

/-- Starts a program and runs it to its end, or until the nanoseconds `left` before the deadline
have passed; none are left when the deadline has passed before the start, and there is no
deadline when `left` is `none`. The program sees the variables of `env` and the process number
`pid`. The result is why it could not start, or how it ended. -/
def Launch.run (l : Launch) (left : Option Nat) (t : FileTree) (cwd : List String)
    (env : Environment) (pid : Nat) : Except String Shell.ProcessEnd := do
  let path ← l.resolve t cwd env
  if left == some 0 then throw "context deadline exceeded"
  let dir ← l.directory t cwd path
  let vars := (env.set "PWD" ("/" ++ "/".intercalate dir)).vars
  let o := Utf8.toOctetText
  let seen := t.toOctets
  let odir := dir.map o
  match Shell.startAt seen odir Shell.interpreterDepth (o path) (o l.program) (l.args.map o) with
  | .error e => throw ("fork/exec " ++ path ++ ": " ++ e.text)
  | .ok s =>
    let e := Shell.runProcess s (vars.map fun (n, v) => (o n, o v)) seen odir
      { text := o l.input, seekable := true, file := none } pid runnerPid left
    pure { e with tree := e.tree.ofOctets, out := Utf8.ofOctetText e.out
                  err := Utf8.ofOctetText e.err, input := Utf8.ofOctetText e.input }

end Regress
