import Regress.Shell.Awk.Run

/-!
# The `awk` command

`awk [-F fs] [-v var=value] [-f progfile | 'program'] [file ...]` reads its options, then its
program from the files of `-f` or from the first operand, and runs it on the other operands.

* `-F` sets `FS` and `-v` assigns a variable before `BEGIN`, escapes undone in both. `-W`
  takes options of this awk: `version` and `usage` (or `help`) write and stop, others are
  accepted, and an unknown one is reported as vacuous. `--` ends the options.
* An option without its value, an unknown option, or a `-v` that is no assignment stops awk
  with status 2; so does a program that does not read, reported with its line (and its file
  for `-f`). Without any operand awk writes its usage on standard error and succeeds.
* `ARGV` holds the name awk was called by and the operands, `ARGC` their number; `ENVIRON`
  holds the environment.
-/

namespace Regress.Awk

open Regress.Shell

/-- What the options of `awk` ask for. -/
structure Options where
  programFiles : List String := []
  fieldSep : Option String := none
  assignments : List (String × String) := []
  deriving Inhabited

/-- What reading the options led to: options and operands, or text to write and a status. -/
inductive OptionsResult where
  | run (o : Options) (operands : List String)
  | stop (out err : String) (code : Nat)
  deriving Inhabited

/-- The usage of `awk`. -/
def usageText (progname : String) : String :=
  "Usage: " ++ progname ++ " [Options] [Program] [file ...]\n\nProgram:\n" ++
  "    The -f option value is the name of a file containing program text.\n" ++
  "    If no -f option is given, a \"--\" ends option processing; the following\n" ++
  "    parameters are the program text.\n\nOptions:\n" ++
  "    -f program-file  Program  text is read from file instead of from the\n" ++
  "                     command-line.  Multiple -f options are accepted.\n" ++
  "    -F value         sets the field separator, FS, to value.\n" ++
  "    -v var=value     assigns value to program variable var.\n" ++
  "    --               unambiguous end of options.\n\n" ++
  "    Implementation-specific options are prefixed with \"-W\".  They can be\n    abbreviated:\n\n" ++
  "    -W version       show version information and exit.\n" ++
  "    -W compat        pre-POSIX 2001.\n" ++
  "    -W dump          show assembler-like listing of program and exit.\n" ++
  "    -W help          show this message and exit.\n" ++
  "    -W interactive   set unbuffered output, line-buffered input.\n" ++
  "    -W exec file     use file as program as well as last option.\n" ++
  "    -W posix         stricter POSIX checking.\n" ++
  "    -W random=number set initial random seed.\n" ++
  "    -W sprintf=number adjust size of sprintf buffer.\n" ++
  "    -W usage         show this message and exit.\n"

/-- The version `-W version` reports. -/
def versionText : String :=
  "mawk 1.3.4 20200120\n"

/-- The options `-W` accepts without doing anything here. -/
def quietOptions : List String :=
  ["compat", "dump", "interactive", "exec", "posix", "random", "sprintf", "posix_space", "traditional"]

/-- Reads the options of `awk` from the arguments. -/
def readOptions (progname : String) : Nat → List String → Options → OptionsResult
  | 0, args, o => .run o args
  | _ + 1, [], o => .run o []
  | fuel + 1, arg :: rest, o =>
    let fail (msg : String) : OptionsResult := .stop "" (progname ++ ": " ++ msg ++ "\n") 2
    let value : Option (String × List String) :=
      if arg.length > 2 then some (String.ofList (arg.toList.drop 2), rest)
      else match rest with
        | v :: more => some (v, more)
        | [] => none
    if arg == "--" then .run o rest
    else if arg == "--version" then .stop versionText "" 0
    else if arg == "--help" || arg == "--usage" then .stop (usageText progname) "" 0
    else if !arg.startsWith "-" || arg == "-" then .run o (arg :: rest)
    else match arg.toList.drop 1 with
      | 'f' :: _ =>
        match value with
        | some (v, more) => readOptions progname fuel more { o with programFiles := o.programFiles ++ [v] }
        | none => fail "option -f lacks argument"
      | 'F' :: _ =>
        match value with
        | some (v, more) => readOptions progname fuel more { o with fieldSep := some v }
        | none => fail "option -F lacks argument"
      | 'v' :: _ =>
        match value with
        | some (v, more) =>
          match operandAssignment v with
          | some a => readOptions progname fuel more { o with assignments := o.assignments ++ [a] }
          | none => fail ("improper assignment: -v " ++ v)
        | none => fail "option -v lacks argument"
      | 'W' :: _ =>
        match value with
        | some (v, more) =>
          let word := (v.splitOn "=").headD ""
          if !word.isEmpty && "version".startsWith word then .stop versionText "" 0
          else if !word.isEmpty && ("usage".startsWith word || "help".startsWith word) then
            .stop (usageText progname) "" 0
          else if !word.isEmpty && quietOptions.any (·.startsWith word) then readOptions progname fuel more o
          else
            match readOptions progname fuel more o with
            | .run o ops => .run o ops
            | .stop out err code =>
              .stop out (progname ++ ": vacuous option: -W \"" ++ v ++ "\"\n" ++ err) code
        | none => fail "option -W lacks argument"
      | _ => fail ("not an option: " ++ arg)

/-- The last element of a path. -/
def baseName (path : String) : String :=
  ((path.splitOn "/").filter (!·.isEmpty)).getLastD path

/-- The message for a program that does not read. -/
def programErrorText (progname : String) (file : Option String) (e : ProgramError) : String :=
  let place := (match file with
    | some f => f ++ ": "
    | none => "") ++ (if e.bare then "" else "line ") ++ toString e.line ++ ": "
  progname ++ ": " ++ place ++ e.message ++ "\n" ++
    (match e.also with
      | some m => progname ++ ": " ++ place ++ m ++ "\n"
      | none => "")

/-- The state a program starts in: the variables awk sets, `ARGV`, `ENVIRON` and the
assignments of `-v`. -/
def startMachine (progname : String) (program : Program) (o : Options) (operands : List String)
    (env : List (String × String)) : Machine :=
  let argv : Table := ((progname :: operands).zipIdx).foldl (fun t (a, i) =>
    t.set (.int i) (Value.ofInput a)) {}
  let environ : Table := env.foldl (fun t (n, v) => t.set (.text n) (Value.ofInput v)) {}
  let fs := match o.fieldSep with
    | some f => unescape (f.length + 1) f.toList ""
    | none => " "
  { program, progname, tables := #[argv, environ]
    globalArrays := [("ARGV", 0), ("ENVIRON", 1)]
    globals := [("FS", .str fs), ("OFS", .str " "), ("ORS", .str "\n"), ("RS", .str "\n"),
                ("SUBSEP", .str "\x1c"), ("CONVFMT", .str "%.6g"), ("OFMT", .str "%.6g"),
                ("NR", .num 0), ("FNR", .num 0), ("RSTART", .num 0), ("RLENGTH", .num (-1)),
                ("FILENAME", .str ""), ("ARGC", .num (Float.ofNat (operands.length + 1)))] }

/-- Runs `awk` with its arguments in the current process; it ends the process with its
status. -/
def runAwk (host : Host) (argv0 : String) (args : List String) : ShellM Unit := do
  let progname := baseName argv0
  let stop (out err : String) (code : Nat) : ShellM Unit := do
    writeTo 1 out
    writeTo 2 err
    throw (.exit code)
  if args.isEmpty then stop "" (usageText progname) 0
  match readOptions progname (args.length + 1) args {} with
  | .stop out err code => stop out err code
  | .run o operands =>
    let sh ← get
    let loaded : Except String (String × Option String × List String) :=
      match o.programFiles, operands with
      | [], text :: rest => .ok (text, none, rest)
      | [], [] => .error (usageText progname)
      | files, rest =>
        let texts : List (Except String String) := files.map fun f =>
          if f == "-" || f == "/dev/stdin" then .ok ((sh.inputStream.map (·.2.text)).getD "")
          else match sh.tree.readFile sh.cwd f with
            | .ok t => .ok t
            | .error e => .error (progname ++ ": cannot open \"" ++ f ++ "\" (" ++ errnoText e.errno ++ ")\n")
        match texts.mapM id with
        | .error msg => .error msg
        | .ok parts => .ok (String.join parts, files.head?, rest)
    match loaded with
    | .error msg => stop "" msg 2
    | .ok (source, file, operands) =>
      match parseProgram source with
      | .error e => stop "" (programErrorText progname file e) 2
      | .ok program =>
        let m := startMachine progname program o operands sh.environment
        let start : AwkM Unit := do
          for (n, v) in o.assignments do
            assignOperand n v
        let (_, m) ← (tryCatch start (fun _ => pure ())).run.run m
        let (_, m) ← (runToEnd host).run.run m
        throw (.exit m.exitCode)

end Regress.Awk
