import Regress.Shell.System

/-!
# Starting programs

What the system runs when a file is executed, how the shell finds a command in the directories
of `PATH`, and how the shell reads its own arguments.

* **Executing a path.** A directory, or a file without permission to execute, cannot be
  executed. A program of the system runs as itself. A file that starts with `#!` names its
  interpreter, which is executed in its place with the rest of that line (if any) as one
  argument, then the file's path, then the arguments; a file without that line, or with an
  empty one, has no format the system can execute.
* **Finding a command.** The shell tries each directory of `PATH` in order, an empty one
  meaning the working directory. The first regular file found decides that the command exists;
  it and the places after it are tried in turn, and the first that executes runs. A file the
  system cannot execute for its format is run by the shell as a script.
* **The shell's arguments.** Option letters after `-` turn options on and after `+` turn them
  off; `-o name` names an option. `-c` takes the first operand as the commands to run, the
  next one as the script's name and the rest as its parameters; otherwise the first operand is
  a script file to read, and with none the commands come from standard input.
-/

namespace Regress.Shell

/-- What a path names for running: a file of the tree, a directory, or a program of the
system. -/
inductive ExecTarget where
  | file (content : String) (executable : Bool)
  | dir
  | system (p : SystemProgram)

/-- What is at a path, seen from the working directory `cwd`. -/
def targetAt (t : FileTree) (cwd : List String) (path : String) : Except Errno ExecTarget :=
  match t.stat cwd path with
  | .ok (.file content x) => .ok (.file content x)
  | .ok .dir => .ok .dir
  | .error e =>
    let abs := Path.absolute ("/" ++ "/".intercalate cwd) path
    match systemProgramAt (Path.cleanElements abs) with
    | some p => .ok (.system p)
    | none => .error e

/-- The text of the file at a path, for a shell to read as a script: a file of the tree, or
the text of a script of the system. -/
def scriptTextAt (t : FileTree) (cwd : List String) (path : String) : Except FsError String :=
  match t.readFile cwd path with
  | .ok text => .ok text
  | .error e =>
    match targetAt t cwd path with
    | .ok (.system (.script text)) => .ok text
    | _ => .error e

/-- What the file tests see at a path: the node of the tree there, or else a directory of the
system or one of its programs, a file that may be executed. -/
def nodeAt (t : FileTree) (cwd : List String) (path : String) : Option Node :=
  match t.stat cwd path with
  | .ok n => some n
  | .error _ =>
    let abs := Path.cleanElements (Path.absolute ("/" ++ "/".intercalate cwd) path)
    let dirs := systemDirs.map fun d => (d.splitOn "/").filter (!·.isEmpty)
    if abs.isEmpty || dirs.any (fun d => d == abs || d.take abs.length == abs) then some .dir
    else match systemProgramAt abs with
      | some (.script text) => some (.file text true)
      | some _ => some (.file "ELF" true)
      | none => none

/-- Whether a path names a regular file: one of the tree, or a program of the system. -/
def isRegularAt (t : FileTree) (cwd : List String) (path : String) : Bool :=
  match targetAt t cwd path with
  | .ok (.file _ _) => true
  | .ok (.system _) => true
  | _ => false

/-- The interpreter line of a file: the interpreter and its argument, which is empty when the
line has none. Blanks around them are dropped; the argument is the rest of the line. -/
def interpreterLine (content : String) : Option (String × String) :=
  if content.startsWith "#!" then
    let line := (content.toList.drop 2).takeWhile (· != '\n')
    let blank (c : Char) : Bool := c == ' ' || c == '\t'
    let line := (line.reverse.dropWhile blank).reverse
    let line := line.dropWhile blank
    let interp := line.takeWhile (!blank ·)
    let arg := (line.drop interp.length).dropWhile blank
    some (String.ofList interp, String.ofList arg)
  else none

/-- What executing a file starts: a shell, `env` or a utility, each with the name it is called
by and its arguments. -/
inductive Start where
  | shell (dialect : Dialect) (argv0 : String) (args : List String)
  | env (argv0 : String) (args : List String)
  | launch (kind : Launcher) (argv0 : String) (args : List String)
  | utility (run : Invocation → Completion) (argv0 : String) (args : List String)

/-- What executing the file at `path` with the name `argv0` and the arguments `args` starts, or
the system's reason it cannot. An interpreter is executed in the file's place; interpreters
are followed a few levels deep. -/
def startAt (t : FileTree) (cwd : List String) : Nat → String → String → List String →
    Except Errno Start
  | 0, _, _, _ => .error .execFormat
  | fuel + 1, path, argv0, args =>
    match targetAt t cwd path with
    | .error e => .error e
    | .ok .dir => .error .permissionDenied
    | .ok (.system (.shell d)) => .ok (.shell d argv0 args)
    | .ok (.system .env) => .ok (.env argv0 args)
    | .ok (.system (.launcher k)) => .ok (.launch k argv0 args)
    | .ok (.system (.utility u)) => .ok (.utility u argv0 args)
    | .ok (.file _ false) => .error .permissionDenied
    | .ok (.system (.script content)) | .ok (.file content true) =>
      match interpreterLine content with
      | none => .error .execFormat
      | some (interp, arg) =>
        if interp.isEmpty then .error .execFormat
        else startAt t cwd fuel interp interp ((if arg.isEmpty then [] else [arg]) ++ path :: args)

/-- How deep interpreters are followed. -/
def interpreterDepth : Nat := 5

/-- What executing a path starts; a file of no format the system knows runs as a script of the
shell of the dialect `d`, the way that shell runs such files. -/
def startAsShell (d : Dialect) (t : FileTree) (cwd : List String) (path argv0 : String) (args : List String) :
    Except Errno Start :=
  match startAt t cwd interpreterDepth path argv0 args with
  | .error .execFormat => .ok (.shell d (if d == .bash then "bash" else "/bin/sh") (path :: args))
  | r => r

/-- The places the shell tries for a command: each directory of the search path with the name
after it; an empty directory gives the name alone. -/
def pathCandidates (searchPath name : String) : List String :=
  (searchPath.splitOn ":").map fun d => if d.isEmpty then name else d ++ "/" ++ name

/-- Whether the shell finds a command on the search path: the first regular file there. -/
def foundOnPath (t : FileTree) (cwd : List String) (searchPath name : String) : Bool :=
  (pathCandidates searchPath name).any (isRegularAt t cwd)

/-- What the shell starts for a command found on the search path, trying the places from the
first regular file on; the error is that of the last place that failed for a reason other than
not being there. -/
def startFromPath (d : Dialect) (t : FileTree) (cwd : List String) (searchPath name : String)
    (args : List String) : Except Errno (String × Start) :=
  let places := (pathCandidates searchPath name).dropWhile (!isRegularAt t cwd ·)
  let rec go : List String → Errno → Except Errno (String × Start)
    | [], e => .error e
    | p :: rest, e =>
      match startAsShell d t cwd p name args with
      | .ok s => .ok (p, s)
      | .error e' => go rest (if e' == .noEntry || e' == .notDir then e else e')
  go places .noEntry

/-! ## The shell's own arguments -/

/-- Where a shell reads its commands: a text given with `-c`, a script file, or standard
input. -/
inductive ShellSource where
  | command (text : String)
  | file (path : String)
  | input
  deriving Repr, DecidableEq, Inhabited

/-- How a shell was asked to run: its options, where its commands come from, its name (`$0`)
and its parameters. -/
structure ShellStart where
  options : ShellOptions
  source : ShellSource
  name : String
  params : List String
  deriving Repr, Inhabited

/-- The option letters the shell accepts without keeping them. -/
def ignoredOptionLetters : List Char := ['I', 'i', 'm', 's', 'V', 'E', 'b', 'p', 'q']

/-- The long option names the shell accepts without keeping them. -/
def ignoredOptionNames : List String :=
  ["ignoreeof", "interactive", "monitor", "stdin", "vi", "emacs", "notify", "privileged", "nolog",
    "debug"]

/-- Sets an option by its letter; the letter `s` asks for standard input. The message for a
letter that is no option. -/
def setOptionLetter (o : ShellOptions) (c : Char) (on : Bool) : Except String ShellOptions :=
  match o.setLetter c on with
  | some o' => .ok o'
  | none =>
    if ignoredOptionLetters.contains c then .ok o
    else .error ("Illegal option " ++ (if on then "-" else "+") ++ String.singleton c)

/-- Sets an option by its long name; the message for a name that is no option. -/
def setOptionName (o : ShellOptions) (name : String) (on : Bool) : Except String ShellOptions :=
  match o.setName name on with
  | some o' => .ok o'
  | none =>
    if ignoredOptionNames.contains name then .ok o
    else .error ("Illegal option -o " ++ name)

/-- Options being read from the shell's arguments: the options, whether `-c` came, and whether
`-s` came. -/
structure StartOptions where
  options : ShellOptions := {}
  command : Bool := false
  stdin : Bool := false
  deriving Inhabited

/-- Reads the option words at the front of the shell's arguments: the options and the
operands. A word that starts with neither `-` nor `+`, and `-` or `--` alone, end them. -/
def readStartOptions : Nat → List String → StartOptions → Except String (StartOptions × List String)
  | 0, args, st => .ok (st, args)
  | _ + 1, [], st => .ok (st, [])
  | fuel + 1, a :: rest, st =>
    match a.toList with
    | '-' :: letters =>
      if letters.isEmpty || letters == ['-'] then .ok (st, rest)
      else letterOptions fuel true letters rest st
    | '+' :: letters => letterOptions fuel false letters rest st
    | _ => .ok (st, a :: rest)
where
  /-- Reads the letters of one option word. -/
  letterOptions (fuel : Nat) (on : Bool) : List Char → List String → StartOptions →
      Except String (StartOptions × List String)
    | [], rest, st => readStartOptions fuel rest st
    | c :: more, rest, st =>
      if c == 'c' then letterOptions fuel on more rest { st with command := true }
      else if c == 'l' then letterOptions fuel on more rest st
      else if c == 'o' then
        match rest with
        | name :: after =>
          match setOptionName st.options name on with
          | .ok o => letterOptions fuel on more after { st with options := o }
          | .error m => .error m
        | [] => letterOptions fuel on more [] st
      else
        match setOptionLetter st.options c on with
        | .ok o => letterOptions fuel on more rest { st with options := o, stdin := st.stdin || (c == 's' && on) }
        | .error m => .error m

/-- Reads the arguments of a shell called by the name `argv0`, or the message for bad ones. -/
def readShellArgs (argv0 : String) (args : List String) : Except String ShellStart :=
  match readStartOptions (args.length + 1) args {} with
  | .error m => .error m
  | .ok (st, operands) =>
    if st.command then
      match operands with
      | [] => .error "-c requires an argument"
      | text :: more =>
        match more with
        | name :: params => .ok { options := st.options, source := .command text, name, params }
        | [] => .ok { options := st.options, source := .command text, name := argv0, params := [] }
    else if st.stdin then
      .ok { options := st.options, source := .input, name := argv0, params := operands }
    else
      match operands with
      | file :: params => .ok { options := st.options, source := .file file, name := file, params }
      | [] => .ok { options := st.options, source := .input, name := argv0, params := [] }

end Regress.Shell
