import Regress.FileTree
import Regress.Path
import Regress.Shell.Utility.Options
import Regress.Shell.Utility.Quote

/-!
# Utilities: what they start with and what they leave

The programs a script calls for its work on text and files are functions from an
`Invocation` (the name they were called by, their arguments, the files, the working directory,
their standard input and the environment) to a `Completion` (their exit status, what they
wrote on their two output streams, the files after them and the input they left).

Standard input is text to read from the front. A utility that stops reading early leaves the
rest for whoever reads next, but only when the input is a file it can reposition; from a pipe
it has taken whatever it read. Messages name the utility by the name it was called by.
-/

namespace Regress.Shell

/-- The system's description of a failure, as the utilities write it. -/
def errnoText : Errno → String
  | .noEntry => "No such file or directory"
  | .notDir => "Not a directory"
  | .isDir => "Is a directory"
  | .exists => "File exists"
  | .permissionDenied => "Permission denied"
  | .execFormat => "Exec format error"
  | .nameTooLong => "File name too long"
  | .io => "Input/output error"

/-- What a utility starts with. `seekable` tells that standard input is a file that can be
repositioned; `inputFile` and `outputFile` name the files standard input and output are, when
they are files; `mask` holds the permission bits new files and directories go without. -/
structure Invocation where
  name : String
  args : List String
  tree : FileTree
  cwd : List String
  input : String
  seekable : Bool := false
  inputFile : Option (List String) := none
  outputFile : Option (List String) := none
  env : List (String × String) := []
  mask : Nat := 18
  deriving Inhabited

/-- A piece of what a utility writes: text on standard output or on standard error. -/
inductive Write where
  | out (text : String)
  | err (text : String)
  deriving Inhabited

/-- What a utility leaves: its status, what it wrote on its two output streams, the files, the
input it did not read and the nanoseconds it waited.

The writes are in the order a reader of both streams together sees them. A utility writes a
message at once, after what it had written to standard output so far, so its writes reach the
streams in the order it makes them. -/
structure Completion where
  status : Nat := 0
  writes : List Write := []
  tree : FileTree
  input : String
  waited : Nat := 0
  deriving Inhabited

/-- Nanoseconds that stand for waiting without end: more than any time limit can be. -/
def foreverNanos : Nat := Nat.pow 2 64

/-- Text on standard output and then text on standard error, leaving out what is empty. -/
def outThenErr (out err : String) : List Write :=
  (if out.isEmpty then [] else [.out out]) ++ (if err.isEmpty then [] else [.err err])

/-- Text on standard error and then text on standard output, leaving out what is empty. -/
def errThenOut (err out : String) : List Write :=
  (if err.isEmpty then [] else [.err err]) ++ (if out.isEmpty then [] else [.out out])

/-- Writes with text on standard output added after them. -/
def addOut (ws : List Write) (text : String) : List Write :=
  if text.isEmpty then ws else ws ++ [.out text]

/-- Writes with text on standard error added after them. -/
def addErr (ws : List Write) (text : String) : List Write :=
  if text.isEmpty then ws else ws ++ [.err text]

/-- The text of the writes to standard error. -/
def errText (ws : List Write) : String :=
  String.join (ws.map fun w => match w with
    | .err s => s
    | .out _ => "")

namespace Invocation

/-- Ends with a status and output, leaving files and input as they were. -/
def finish (inv : Invocation) (status : Nat) (out err : String) : Completion :=
  { status, writes := outThenErr out err, tree := inv.tree, input := inv.input }

/-- A message of the utility, with its name in front. -/
def message (inv : Invocation) (text : String) : String :=
  inv.name ++ ": " ++ text ++ "\n"

/-- The line that sends the user to the help. -/
def tryHelp (inv : Invocation) : String :=
  "Try \x27" ++ inv.name ++ " --help\x27 for more information.\n"

/-- Fails on bad options: the message, the line that sends to the help, and `status`. -/
def optionFailure (inv : Invocation) (status : Nat) (e : OptError) : Completion :=
  inv.finish status "" (e.message inv.name ++ inv.tryHelp)

/-- The message for an argument of `option` that names none of `choices` (or several of them),
and the valid arguments after it, synonyms on one line. -/
def argumentMessage [BEq α] (inv : Invocation) (option arg : String) (choices : List (String × α))
    (ambiguous : Bool) : String :=
  let (valid, _) := choices.foldl (fun (acc : String × Option α) (name, v) =>
    let (text, last) := acc
    if last == some v then (text ++ ", " ++ quoteName name, last)
    else (text ++ "\n  - " ++ quoteName name, some v)) ("Valid arguments are:", none)
  inv.message ((if ambiguous then "ambiguous" else "invalid") ++ " argument " ++ quoteName arg ++
    " for " ++ quoteName option) ++ valid ++ "\n"

/-- Fails with status 1 on an argument of `option` that names none of `choices` (or several):
the message, the valid arguments and the line that sends to the help. -/
def argumentFailure [BEq α] (inv : Invocation) (option arg : String) (choices : List (String × α))
    (ambiguous : Bool) : Completion :=
  inv.finish 1 "" (inv.argumentMessage option arg choices ambiguous ++ inv.tryHelp)

/-- The text of a file, or the failure. -/
def read (inv : Invocation) (path : String) : Except FsError String :=
  inv.tree.readFile inv.cwd path

/-- What reading from standard input leaves when `taken` characters of it were used: the
rest, on input that can be repositioned, and nothing from a pipe. -/
def leftAfter (inv : Invocation) (taken : Nat) : String :=
  if inv.seekable then String.ofList (inv.input.toList.drop taken) else ""

end Invocation

/-- The lines of a text, without their breaks. -/
def splitLines (text : String) : List String :=
  let parts := text.splitOn "\n"
  if text.isEmpty || text.endsWith "\n" then parts.dropLast else parts

/-- Reads the inputs of a utility one by one, in order: the name of each with its text or the
message for why it could not be read, and the input left. -/
def readEach (inv : Invocation) (files : List String) (failure : String → Errno → String) :
    List (String × Except String String) × String :=
  files.foldl (fun (acc : List (String × Except String String) × String) f =>
    let (got, input) := acc
    if f == "-" then (got ++ [(f, .ok input)], "")
    else
      match inv.read f with
      | .ok text => (got ++ [(f, .ok text)], input)
      | .error e => (got ++ [(f, .error (inv.message (failure f e.errno)))], input)) ([], inv.input)

/-- The missing-operand message and the line after it. -/
def missingOperand (inv : Invocation) : String :=
  inv.message "missing operand" ++ inv.tryHelp

/-- Lower-case ASCII letters. -/
def lowerAscii (s : String) : String :=
  s.map fun c => if 'A' ≤ c && c ≤ 'Z' then Char.ofNat (c.toNat + 32) else c

/-- Upper-case ASCII letters. -/
def upperAscii (s : String) : String :=
  s.map fun c => if 'a' ≤ c && c ≤ 'z' then Char.ofNat (c.toNat - 32) else c

/-- Reads a decimal count with an optional sign, the way the utilities read counts. -/
def readCount (s : String) : Option Int :=
  match s.toList with
  | '+' :: rest => if !rest.isEmpty && rest.all Char.isDigit then (String.ofList rest).toNat?.map Int.ofNat else none
  | '-' :: rest => if !rest.isEmpty && rest.all Char.isDigit then (String.ofList rest).toNat?.map fun n => -(n : Int) else none
  | cs => if !cs.isEmpty && cs.all Char.isDigit then s.toNat?.map Int.ofNat else none

end Regress.Shell
