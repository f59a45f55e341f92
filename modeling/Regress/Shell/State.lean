import Regress.FileTree
import Regress.Path
import Regress.Shell.Syntax
import Regress.Shell.Utility.Basic
import Regress.Shell.Arith

/-!
# The state of a running shell

A shell process holds its variables and which of them are exported, its positional
parameters, the status of the last command, its options, its functions, its working directory
and a table of file descriptors.

* **Output.** A descriptor open for writing writes to a sink: a buffer (the process's own
  standard output and error, a pipe, a command substitution), a file of the tree, or nowhere.
* **Input.** A descriptor open for reading reads from a stream: the text left to read, whether
  it is a file that can be repositioned, and which file. Streams are shared: descriptors
  duplicated from one another, and the processes that inherit them, read from the same place,
  so what one reader takes the next does not see.
* **Stops.** `exit`, a signal that kills the process, `break`, `continue`, `return`, an error
  of the shell (reported where it happened, with the status 2) and an error of bash's
  expansions (which drops the rest of the top-level line) stop the flow of the script and
  travel as a `Stop` to the construct that handles them; the state is kept, so what was written
  before stays written.
* **Processes.** A subshell is a copy of its shell: what it changes of variables, options,
  functions, traps and descriptors is undone when it ends. It keeps the process number of its
  shell, and a signal it sends there waits for it to end before it is delivered.
-/

namespace Regress.Shell

/-- Where writes to a descriptor go. -/
inductive Sink where
  | buffer (id : Nat)
  | file (path : List String)
  | null
  deriving Repr, DecidableEq, Inhabited

/-- What a descriptor is open on. -/
inductive Fd where
  | writer (sink : Sink)
  | reader (stream : Nat)
  deriving Repr, DecidableEq, Inhabited

/-- Text to be read: what is left of it, whether it is a file that can be repositioned, and
the file it is, if any. -/
structure Stream where
  text : String
  seekable : Bool
  file : Option (List String)
  deriving Repr, Inhabited

/-- The options of the shell that `set` turns on and off. -/
structure ShellOptions where
  errexit : Bool := false
  nounset : Bool := false
  xtrace : Bool := false
  noglob : Bool := false
  verbose : Bool := false
  noexec : Bool := false
  allexport : Bool := false
  noclobber : Bool := false
  pipefail : Bool := false
  deriving Repr, DecidableEq, Inhabited

/-- The letters of the options that are on, as `$-` shows them. -/
def ShellOptions.letters (o : ShellOptions) : String :=
  (if o.errexit then "e" else "") ++ (if o.noglob then "f" else "") ++
  (if o.noexec then "n" else "") ++ (if o.nounset then "u" else "") ++
  (if o.verbose then "v" else "") ++ (if o.xtrace then "x" else "") ++
  (if o.allexport then "a" else "") ++ (if o.noclobber then "C" else "")

/-- The letters of the options that are on, as `$-` of bash shows them, in its order; bash
always hashes commands and expands braces. -/
def ShellOptions.bashLetters (o : ShellOptions) : String :=
  (if o.allexport then "a" else "") ++ (if o.errexit then "e" else "") ++
  (if o.noglob then "f" else "") ++ "h" ++ (if o.noexec then "n" else "") ++
  (if o.nounset then "u" else "") ++ (if o.verbose then "v" else "") ++
  (if o.xtrace then "x" else "") ++ "B" ++ (if o.noclobber then "C" else "")

/-- Sets the option of a letter; `none` when the letter names no option. -/
def ShellOptions.setLetter (o : ShellOptions) (c : Char) (on : Bool) : Option ShellOptions :=
  if c == 'e' then some { o with errexit := on }
  else if c == 'u' then some { o with nounset := on }
  else if c == 'x' then some { o with xtrace := on }
  else if c == 'f' then some { o with noglob := on }
  else if c == 'v' then some { o with verbose := on }
  else if c == 'n' then some { o with noexec := on }
  else if c == 'a' then some { o with allexport := on }
  else if c == 'C' then some { o with noclobber := on }
  else none

/-- The long names of the options, for `set -o`. -/
def ShellOptions.setName (o : ShellOptions) (name : String) (on : Bool) : Option ShellOptions :=
  if name == "errexit" then o.setLetter 'e' on
  else if name == "nounset" then o.setLetter 'u' on
  else if name == "xtrace" then o.setLetter 'x' on
  else if name == "noglob" then o.setLetter 'f' on
  else if name == "verbose" then o.setLetter 'v' on
  else if name == "noexec" then o.setLetter 'n' on
  else if name == "allexport" then o.setLetter 'a' on
  else if name == "noclobber" then o.setLetter 'C' on
  else if name == "pipefail" then some { o with pipefail := on }
  else none

/-- An array variable of bash: its elements with their subscripts. The subscripts of an indexed
array are numbers, kept in increasing order; those of an associative array are any texts, kept
in the order they were set. -/
structure ShellArray where
  associative : Bool := false
  items : List (String × String) := []
  deriving Repr, DecidableEq, Inhabited

/-- Whether a subscript comes before another in an indexed array. -/
def subscriptBefore (a b : String) : Bool :=
  a.toNat?.getD 0 < b.toNat?.getD 0

/-- An array with an element set. -/
def ShellArray.set (arr : ShellArray) (key value : String) : ShellArray :=
  if arr.items.any (·.1 == key) then
    { arr with items := arr.items.map fun (k, v) => if k == key then (k, value) else (k, v) }
  else if arr.associative then { arr with items := arr.items ++ [(key, value)] }
  else
    let before := arr.items.filter fun (k, _) => subscriptBefore k key
    let after := arr.items.filter fun (k, _) => !subscriptBefore k key
    { arr with items := before ++ [(key, value)] ++ after }

/-- An element of an array. -/
def ShellArray.get? (arr : ShellArray) (key : String) : Option String :=
  (arr.items.find? (·.1 == key)).map (·.2)

/-- The subscript after the greatest one of an indexed array. -/
def ShellArray.nextIndex (arr : ShellArray) : Nat :=
  match arr.items.getLast? with
  | some (k, _) => k.toNat?.getD 0 + 1
  | none => 0

/-- An indexed array of values. -/
def ShellArray.ofList (values : List String) : ShellArray :=
  { items := values.zipIdx.map fun (v, i) => (toString i, v) }

/-- The values of an array, in the order of its subscripts. -/
def ShellArray.values (arr : ShellArray) : List String :=
  arr.items.map (·.2)

/-- A function: its body and the line it was defined on. -/
structure ShellFunction where
  body : Command
  line : Nat
  deriving Repr, Inhabited

/-- A running shell process. Its `clock` counts the nanoseconds since the tools of the case
started, `deadline` is when the case's time limit passes, if it has one, and `jobsEnd` is when
the last of its jobs in the background ends; `niceness` is its scheduling niceness, which the
programs it starts inherit. -/
structure Proc where
  tree : FileTree
  cwd : List String
  vars : List (String × String) := []
  exported : List String := []
  readonly : List String := []
  params : List String := []
  name : String := "sh"
  pid : Nat := 1
  parentPid : Nat := 0
  status : Nat := 0
  options : ShellOptions := {}
  dialect : Dialect := .posix
  buffers : List (Nat × String) := [(0, ""), (1, "")]
  streams : List (Nat × Stream) := []
  nextId : Nat := 2
  fds : List (Nat × Fd) := [(1, .writer (.buffer 0)), (2, .writer (.buffer 1))]
  guarded : Bool := false
  line : Nat := 0
  functions : List (String × ShellFunction) := []
  substitutionStatus : Option Nat := none
  lastBackground : Option Nat := none
  nextPid : Nat := 2
  loopDepth : Nat := 0
  funcDepth : Nat := 0
  locals : List (List (String × Option String)) := []
  traps : List (String × String) := []
  subshellDepth : Nat := 0
  pendingSignal : Option Nat := none
  finished : List (Nat × Nat) := []
  dotDepth : Nat := 0
  hashed : List (String × String) := []
  optIndex : Nat := 1
  optOffset : Option Nat := none
  fileMask : Nat := 18
  aliases : AliasTable := []
  limits : List (Char × Option Nat × Option Nat) := []
  arrays : List (String × ShellArray) := []
  shopts : List String := []
  syntaxLabel : String := ""
  sourceName : Option String := none
  traceLevel : Nat := 0
  integers : List String := []
  localArrays : List (List (String × Option ShellArray)) := []
  clock : Nat := 0
  deadline : Option Nat := none
  jobsEnd : Nat := 0
  niceness : Int := 0
  deriving Inhabited

/-- Why the flow of a script stopped. `exhausted` is a process that does not end: it ran out of
fuel, stopped itself, or met the time limit. -/
inductive Stop where
  | exit (code : Nat)
  | killed (signal : Nat)
  | breakLoop (levels : Nat)
  | continueLoop (levels : Nat)
  | returnFrom (code : Nat)
  | error
  | abandon
  | exhausted
  deriving Repr, DecidableEq, Inhabited

/-- A step of a shell. -/
abbrev ShellM := ExceptT Stop (StateM Proc)

namespace Proc

/-- The working directory as a path. -/
def cwdPath (sh : Proc) : String :=
  "/" ++ "/".intercalate sh.cwd

/-- What a descriptor is open on, if it is open. -/
def fdOf (sh : Proc) (fd : Nat) : Option Fd :=
  (sh.fds.find? (·.1 == fd)).map (·.2)

/-- The text in a buffer. -/
def bufferText (sh : Proc) (id : Nat) : String :=
  ((sh.buffers.find? (·.1 == id)).map (·.2)).getD ""

/-- A stream by number. -/
def streamOf (sh : Proc) (id : Nat) : Option Stream :=
  (sh.streams.find? (·.1 == id)).map (·.2)

/-- The stream standard input reads from, if it reads from one. -/
def inputStream (sh : Proc) : Option (Nat × Stream) :=
  match sh.fdOf 0 with
  | some (.reader id) => (sh.streamOf id).map (id, ·)
  | _ => none

/-- The array of a name, if it names one. -/
def array? (sh : Proc) (name : String) : Option ShellArray :=
  (sh.arrays.find? (·.1 == name)).map (·.2)

/-- The value of a variable; of an array, its element `0`. -/
def var? (sh : Proc) (name : String) : Option String :=
  match sh.array? name with
  | some arr => arr.get? "0"
  | none => (sh.vars.find? (·.1 == name)).map (·.2)

/-- The value of a parameter: a special parameter, a positional one or a variable. -/
def lookup (sh : Proc) (name : String) : Option String :=
  if name == "?" then some (toString sh.status)
  else if name == "$" then some (toString sh.pid)
  else if name == "#" then some (toString sh.params.length)
  else if name == "@" || name == "*" then
    if sh.params.isEmpty then none else some (" ".intercalate sh.params)
  else if name == "-" then
    some (if sh.dialect == .bash then sh.options.bashLetters else sh.options.letters)
  else if name == "!" then sh.lastBackground.map toString
  else if name == "LINENO" && sh.dialect == .bash then some (toString sh.line)
  else if !name.isEmpty && name.all Char.isDigit then
    match name.toNat? with
    | some 0 => some sh.name
    | some n => sh.params[n - 1]?
    | none => none
  else sh.var? name

/-- The variables with one set to a value. -/
def withVar (vars : List (String × String)) (name value : String) : List (String × String) :=
  if vars.any (·.1 == name) then vars.map fun (k, v) => if k == name then (k, value) else (k, v)
  else vars ++ [(name, value)]

/-- The characters that split fields: those of `IFS`, or blanks when it is unset. -/
def ifs (sh : Proc) : String :=
  (sh.var? "IFS").getD " \t\n"

/-- The variables a started program sees: the exported ones. -/
def environment (sh : Proc) : List (String × String) :=
  sh.vars.filter fun (k, _) => sh.exported.contains k

end Proc

/-- Sets a variable; under `set -a` it is exported too. Setting `OPTIND` starts `getopts`
over at the word it names. A variable that is an array has its element `0` set, and one that
bash holds as an integer takes the value of its text read as arithmetic. -/
def assign (name value : String) : ShellM Unit :=
  modify fun sh =>
    let value := if sh.integers.contains name then
        match evalArith true value sh.lookup with
        | .ok (v, _) => toString v
        | .error _ => "0"
      else value
    let sh := if name == "OPTIND" then { sh with optIndex := value.toNat?.getD 1, optOffset := none } else sh
    match sh.array? name with
    | some arr =>
      { sh with arrays := sh.arrays.map fun (k, a) => if k == name then (k, arr.set "0" value) else (k, a) }
    | none =>
      { sh with vars := Proc.withVar sh.vars name value
                exported := if sh.options.allexport && !sh.exported.contains name then sh.exported ++ [name]
                  else sh.exported }

/-- Makes a name an array, in place of the variable it was. -/
def assignArray (name : String) (arr : ShellArray) : ShellM Unit :=
  modify fun sh =>
    { sh with vars := sh.vars.filter (·.1 != name)
              arrays := (sh.arrays.filter (·.1 != name)) ++ [(name, arr)] }

/-- Sets an element of an array; a variable that is no array becomes one, its value the
element `0`. -/
def assignElement (name key value : String) : ShellM Unit := do
  let sh : Proc ← get
  let arr : ShellArray := match sh.array? name with
    | some arr => arr
    | none =>
      match sh.vars.find? (fun (k, _) => k == name) with
      | some (_, v) => ShellArray.ofList [v]
      | none => {}
  assignArray name (arr.set key value)

/-- Removes a variable or array. -/
def unassign (name : String) : ShellM Unit :=
  modify fun sh => { sh with vars := sh.vars.filter (·.1 != name), exported := sh.exported.filter (· != name)
                             arrays := sh.arrays.filter (·.1 != name) }

/-- Sets the status of the last command. -/
def setStatus (code : Nat) : ShellM Unit :=
  modify fun sh => { sh with status := code }

/-- Writes text to a sink. -/
def writeSink (s : Sink) (text : String) : ShellM Unit := do
  if text.isEmpty then return
  let sh ← get
  match s with
  | .buffer id =>
    set { sh with buffers := sh.buffers.map fun (i, t) => if i == id then (i, t ++ text) else (i, t) }
  | .file path =>
    let current := match sh.tree.get? path with
      | some (.file c _) => c
      | _ => ""
    match sh.tree.get? path with
    | some (.file _ x) => set { sh with tree := sh.tree.set path (.file (current ++ text) x) }
    | _ => pure ()
  | .null => pure ()

/-- Writes text to a file descriptor; a descriptor not open for writing takes nothing. -/
def writeTo (fd : Nat) (text : String) : ShellM Unit := do
  match (← get).fdOf fd with
  | some (.writer s) => writeSink s text
  | _ => pure ()

/-- The prefix of the shell's messages: the script's name and the line, in the shell's way. -/
def messagePrefix (sh : Proc) : String :=
  match sh.dialect with
  | .posix => sh.name ++ ": " ++ toString sh.line ++ ": "
  | .bash => sh.sourceName.getD sh.name ++ ": line " ++ toString sh.line ++ ": "

/-- Reports an error of the shell on standard error, with the script's name and line. -/
def complain (msg : String) : ShellM Unit := do
  writeTo 2 (messagePrefix (← get) ++ msg ++ "\n")

/-- Opens a new buffer: its number. -/
def newBuffer : ShellM Nat := do
  let sh ← get
  let id := sh.nextId
  set { sh with buffers := sh.buffers ++ [(id, "")], nextId := id + 1 }
  pure id

/-- Takes the text of a buffer and closes it. -/
def takeBuffer (id : Nat) : ShellM String := do
  let sh ← get
  set { sh with buffers := sh.buffers.filter (·.1 != id) }
  pure (sh.bufferText id)

/-- Opens a new stream on a text: its number. -/
def newStream (s : Stream) : ShellM Nat := do
  let sh ← get
  let id := sh.nextId
  set { sh with streams := sh.streams ++ [(id, s)], nextId := id + 1 }
  pure id

/-- Replaces what is left of a stream. -/
def setStreamText (id : Nat) (text : String) : ShellM Unit :=
  modify fun sh => { sh with streams := sh.streams.map fun (i, s) =>
    if i == id then (i, { s with text }) else (i, s) }

/-- Points a descriptor at something, or closes it. -/
def setFd (fd : Nat) (target : Option Fd) : ShellM Unit :=
  modify fun sh => { sh with fds := match target with
    | some t => (fd, t) :: sh.fds.filter (·.1 != fd)
    | none => sh.fds.filter (·.1 != fd) }

/-- Ends the script when `set -e` is on and the last command failed outside a condition. -/
def checkErrexit : ShellM Unit := do
  let sh ← get
  if sh.options.errexit && !sh.guarded && sh.status != 0 then throw (.exit sh.status)

/-- Runs a step as a condition, where a failure does not end the script under `set -e`. -/
def guarded (body : ShellM Unit) : ShellM Unit := do
  let g := (← get).guarded
  modify fun sh => { sh with guarded := true }
  tryCatch body fun stop => do
    modify fun sh => { sh with guarded := g }
    throw stop
  modify fun sh => { sh with guarded := g }

/-- Runs a step as a subshell: what it changes in variables, parameters, the working
directory, options, functions and descriptors is undone afterwards, and `exit` ends only the
subshell. Files, streams and buffers stay as it left them. The status of the subshell. -/
def inSubshell (body : ShellM Unit) : ShellM Nat := do
  let saved ← get
  modify fun sh => { sh with traps := sh.traps.filter (·.2.isEmpty), subshellDepth := sh.subshellDepth + 1 }
  let code ← tryCatch (do body; pure (← get).status) fun
    | .exit n => pure n
    | .error => pure 2
    | .abandon => pure 1
    | .breakLoop _ => do pure (← get).status
    | .continueLoop _ => do pure (← get).status
    | .returnFrom n => pure n
    | stop => throw stop
  modify fun sh => { sh with vars := saved.vars, exported := saved.exported, params := saved.params
                             cwd := saved.cwd, options := saved.options, fds := saved.fds
                             guarded := saved.guarded, functions := saved.functions
                             line := saved.line, traps := saved.traps
                             loopDepth := saved.loopDepth, funcDepth := saved.funcDepth
                             locals := saved.locals, readonly := saved.readonly, status := code
                             subshellDepth := saved.subshellDepth, dialect := saved.dialect
                             dotDepth := saved.dotDepth, name := saved.name
                             fileMask := saved.fileMask, optIndex := saved.optIndex
                             optOffset := saved.optOffset, hashed := saved.hashed
                             lastBackground := saved.lastBackground, aliases := saved.aliases
                             limits := saved.limits, arrays := saved.arrays, shopts := saved.shopts
                             traceLevel := saved.traceLevel, integers := saved.integers
                             localArrays := saved.localArrays, sourceName := saved.sourceName
                             syntaxLabel := saved.syntaxLabel }
  pure code

/-- The text standard input has left and whether it is a file that can be repositioned. -/
def currentInput : ShellM (String × Bool × Option (List String)) := do
  match (← get).inputStream with
  | some (_, s) => pure (s.text, s.seekable, s.file)
  | none => pure ("", false, none)

/-- Leaves `text` as what standard input has left. -/
def leaveInput (text : String) : ShellM Unit := do
  match (← get).inputStream with
  | some (id, _) => setStreamText id text
  | none => pure ()

/-- The file standard output writes to, if it is a file. -/
def outputFile : ShellM (Option (List String)) := do
  match (← get).fdOf 1 with
  | some (.writer (.file p)) => pure (some p)
  | _ => pure none

/-- The path of the null device, which reads as empty and keeps nothing written to it. -/
def nullDevice : List String := ["dev", "null"]

/-- A tree with the null device in it, unless the tree has its own `/dev`. -/
def withDevices (t : FileTree) : FileTree :=
  if (t.get? ["dev"]).isSome then t else (t.set ["dev"] .dir).set nullDevice (.file "" false)

/-- A tree with what was written to the null device dropped. -/
def emptyNullDevice (t : FileTree) : FileTree :=
  match t.get? nullDevice with
  | some (.file _ x) => t.set nullDevice (.file "" x)
  | _ => t

/-- Lets `ns` nanoseconds pass. When the time limit passes meanwhile, the process stops there:
it does not end before the limit; without a limit, a wait without end does not end either. -/
def waitFor (ns : Nat) : ShellM Unit := do
  let sh ← get
  let now := sh.clock + ns
  match sh.deadline with
  | some d =>
    if d ≤ now then
      set { sh with clock := d }
      throw .exhausted
  | none => if foreverNanos ≤ ns then throw .exhausted
  set { sh with clock := now }

/-- Runs a utility with the shell's files, directory and input and the environment `env`, and
takes what it leaves: its files, the input it did not read, what it wrote, in order, its status,
and the time it waited. -/
def runUtility (u : Invocation → Completion) (name : String) (args : List String)
    (env : List (String × String)) : ShellM Unit := do
  let sh ← get
  let (input, seekable, inputFile) ← currentInput
  let outFile ← outputFile
  let c := u { name, args, tree := sh.tree, cwd := sh.cwd, input, seekable, inputFile
               outputFile := outFile, env, mask := sh.fileMask }
  modify fun sh => { sh with tree := emptyNullDevice c.tree }
  leaveInput c.input
  for w in c.writes do
    match w with
    | .out text => writeTo 1 text
    | .err text => writeTo 2 text
  waitFor c.waited
  setStatus c.status

end Regress.Shell
