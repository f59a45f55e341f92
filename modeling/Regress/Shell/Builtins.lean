import Regress.Shell.Parse
import Regress.Shell.Fields
import Regress.Shell.Program
import Regress.Shell.Signal

/-!
# Builtin commands

The commands the shell runs itself and that need no more than its state: `echo`, `printf`,
`test` (also spelt `[`), `read`, `cd`, `pwd`, `kill`, `set`, `shift`, `export`, `readonly`,
`unset`, `local`, `umask`, `type`, `hash`, `trap`, `:`, `true` and `false`. The builtins that
run commands (`eval`, `.`, `exec`, `command`, `exit` with its trap) belong to the evaluator.

* **Errors.** A builtin reports an error with the script's name and line and its own name, and
  fails with the status 2; for the special builtins the failure ends the shell. Numbers are
  decimal, with blanks around them allowed, from 0 to 2147483647.
* **Options.** A word `-abc` gives the letters `a`, `b` and `c`; `--` ends the options and so
  does a word that is not one. A letter the builtin does not know is an illegal option.
* **echo** takes only an exact `-n` as an option and always does its escapes, of which `\c`
  ends all output; in bash it takes `-n`, `-e` and `-E` and does escapes only with `-e`.
* **kill** aimed at the shell's own process delivers the signal: one the shell traps runs its
  action after the command, one it ignores does nothing, and any other ends the shell at once.
  From a subshell the signal reaches the shell when the subshell is done.
-/

namespace Regress.Shell

/-- Reports an error of a builtin and fails with the status 2. -/
def builtinFail {α : Type} (name msg : String) : ShellM α := do
  complain (name ++ ": " ++ msg)
  setStatus 2
  throw .error

/-- Reports a warning of a builtin. -/
def builtinWarn (name msg : String) : ShellM Unit :=
  complain (name ++ ": " ++ msg)

/-- A count given to a builtin: a decimal number from 0 to 2147483647, blanks around it
allowed. -/
def countArg (name s : String) : ShellM Nat :=
  match testInteger s with
  | .ok n => if n < 0 || n > 2147483647 then builtinFail name ("Illegal number: " ++ s) else pure n.toNat
  | .error m => builtinFail name m

/-- Reads the options of a builtin: the letters with their arguments and the words after
them. Letters of `withArg` take the rest of their word or the next word. -/
def builtinOptions (name : String) (letters withArg : List Char) :
    Nat → List String → List (Char × String) → ShellM (List (Char × String) × List String)
  | 0, args, acc => pure (acc, args)
  | _ + 1, [], acc => pure (acc, [])
  | fuel + 1, a :: rest, acc =>
    if a == "--" then pure (acc, rest)
    else
      match a.toList with
      | '-' :: c :: more => wordLetters fuel (c :: more) rest acc
      | _ => pure (acc, a :: rest)
where
  /-- Reads the letters of one word. -/
  wordLetters (fuel : Nat) : List Char → List String → List (Char × String) →
      ShellM (List (Char × String) × List String)
    | [], rest, acc => builtinOptions name letters withArg fuel rest acc
    | c :: more, rest, acc =>
      if withArg.contains c then
        if !more.isEmpty then builtinOptions name letters withArg fuel rest (acc ++ [(c, String.ofList more)])
        else
          match rest with
          | v :: after => builtinOptions name letters withArg fuel after (acc ++ [(c, v)])
          | [] => builtinFail name ("No arg for -" ++ String.singleton c ++ " option")
      else if letters.contains c then wordLetters fuel more rest (acc ++ [(c, "")])
      else builtinFail name ("Illegal option -" ++ String.singleton c)

/-- Reads the options of a builtin from its arguments. -/
def readBuiltinOptions (name : String) (letters withArg : List Char) (args : List String) :
    ShellM (List (Char × String) × List String) :=
  builtinOptions name letters withArg (args.length + 1) args []

/-! ## echo and printf -/

/-- The words of the shell's `echo` with their escapes done and a blank between them, and
whether `\c` ended all output. -/
def escapedWords : List String → List Char × Bool
  | [] => ([], false)
  | w :: rest =>
    let (t, stop) := echoEscapes (w.length + 1) w.toList
    if stop then (t, true)
    else
      match rest with
      | [] => (t, false)
      | _ =>
        let (more, stop') := escapedWords rest
        (t ++ ' ' :: more, stop')

/-- `echo`: its words with blanks between them and a line break. -/
def echoBuiltin (args : List String) : ShellM Unit := do
  match (← get).dialect with
  | .bash => writeTo 1 (optionEcho true args)
  | .posix =>
    let (newline, words) := match args with
      | "-n" :: rest => (false, rest)
      | _ => (true, args)
    let (text, stop) := escapedWords words
    writeTo 1 (String.ofList text ++ (if newline && !stop then "\n" else ""))
  setStatus 0

/-- The complaint of bash's `printf` about a numeric argument: a number out of range is only
a warning; one that does not read is an invalid number, or an invalid octal or hexadecimal one
when its prefix said so. -/
def NumberFault.bashMessage (a : String) : NumberFault → String
  | .outOfRange => "warning: " ++ a ++ ": Numerical result out of range"
  | _ =>
    match a.toList with
    | '0' :: d :: _ =>
      if d.isDigit then a ++ ": invalid octal number"
      else if d == 'x' then a ++ ": invalid hex number"
      else a ++ ": invalid number"
    | _ => a ++ ": invalid number"

/-- The text of a complaint of bash's `printf`. -/
def Complaint.bashMessage : Complaint → String
  | .number a f => f.bashMessage a
  | .escape m => m

/-- Whether a complaint makes bash's `printf` fail: a number that does not read. -/
def Complaint.failsBash : Complaint → Bool
  | .number _ .outOfRange => false
  | .number _ _ => true
  | .escape _ => false

/-- Where text written a line at a time has been written up to once `p` characters of it were
made: just after the last line break among them. -/
def lineFlushed (cs : List Char) (p : Nat) : Nat :=
  (cs.take p).zipIdx.foldl (fun acc (c, i) => if c == '\n' then i + 1 else acc) 0

/-- `printf` of bash: `-v name` puts the text in a variable instead of writing it, `%q` quotes
for the shell, and the complaints are worded its way; a bad conversion character ends it
with the status 1. Bash writes its output a line at a time, so a complaint comes after the
lines ended before it and before the rest. -/
def bashPrintf (args : List String) : ShellM Unit := do
  let (target, args) : Option String × List String := match args with
    | "-v" :: v :: rest => (some v, match rest with
      | "--" :: more => more
      | more => more)
    | "--" :: rest => (none, rest)
    | _ => (none, args)
  match args with
  | [] =>
    writeTo 2 "printf: usage: printf [-v var] format [arguments]\n"
    setStatus 2
  | format :: rest =>
    let run := formatAll .bash format rest
    let cs := run.out.toList
    let fatal := run.fatal.map fun
      | .missing d => "printf: \x60" ++ d ++ "\x27: missing format character"
      | .invalid d => "printf: \x60" ++ String.ofList (d.toList.getLast?).toList ++ "\x27: invalid format character"
    let notes := run.complaints.map (fun (p, c) => (p, "printf: " ++ c.bashMessage)) ++
      (fatal.map fun m => (cs.length, m)).toList
    -- the complaints, each after the lines written before it
    let mut flushed := 0
    for (p, m) in notes do
      let cut := max flushed (lineFlushed cs p)
      if target.isNone then writeTo 1 (String.ofList ((cs.drop flushed).take (cut - flushed)))
      complain m
      flushed := cut
    match target with
    | some v => assign v run.out
    | none => writeTo 1 (String.ofList (cs.drop flushed))
    if fatal.isSome then setStatus 1
    else setStatus (if run.complaints.any (·.2.failsBash) then 1 else 0)

/-- The complaint of `printf` about a numeric argument. -/
def NumberFault.message (a : String) : NumberFault → String
  | .notNumeric => a ++ ": expected numeric value"
  | .notComplete => a ++ ": not completely converted"
  | .outOfRange => a ++ ": Numerical result out of range"

/-- `printf`: formats its arguments. Its output is held until it ends and its complaints are
written at once, so they come first; what was formatted before an error is still written. -/
def printfBuiltin (args : List String) : ShellM Unit := do
  if (← get).dialect == .bash then bashPrintf args else
  let (_, args) ← readBuiltinOptions "printf" [] [] args
  match args with
  | [] => builtinFail "printf" "usage: printf format [arg ...]"
  | format :: rest =>
    let run := formatAll .shell format rest
    for (_, c) in run.complaints do
      match c with
      | .number a f => builtinWarn "printf" (f.message a)
      | .escape m => builtinWarn "printf" m
    match run.fatal with
    | some f =>
      builtinWarn "printf" (match f with
        | .missing _ => "missing format character"
        | .invalid d => d ++ ": invalid directive")
      writeTo 1 run.out
      setStatus 2
      throw .error
    | none =>
      writeTo 1 run.out
      setStatus (if run.complaints.isEmpty then 0 else 1)

/-! ## test -/

/-- What the file tests of the shell see. -/
def shellLookup (sh : Proc) : FileLookup :=
  fun p => nodeAt sh.tree sh.cwd p

/-- `test` and `[`: the status of a condition. `[` needs a last word that starts with `]`. -/
def testBuiltin (name : String) (args : List String) : ShellM Unit := do
  let sh ← get
  if sh.dialect == .bash then
    if name == "[" && args.getLast? != some "]" then
      complain "[: missing \x60]\x27"
      setStatus 2
    else
      let words := if name == "[" then args.dropLast else args
      let isSet (n : String) : Bool := (sh.lookup n).isSome || (sh.array? n).isSome
      match bashCondition (shellLookup sh) isSet words with
      | .ok v => setStatus (if v then 0 else 1)
      | .error m =>
        complain (name ++ ": " ++ m)
        setStatus 2
  else
  let args ← if name == "[" then
      match args.getLast? with
      | some l => if l.startsWith "]" then pure args.dropLast else builtinFail name "missing ]"
      | none => builtinFail name "missing ]"
    else pure args
  match evalCondition (shellLookup (← get)) args with
  | .ok v => setStatus (if v then 0 else 1)
  | .error m => builtinFail name m

/-! ## read -/

/-- Reads a line of input for `read`: its characters, each marked when a backslash kept it
from splitting, the input after it, and whether the line ended with a line break. A backslash
before a line break joins the lines, unless `raw`; zero characters are dropped. -/
def readInputLine (raw : Bool) : List Char → List (Char × Bool) → List (Char × Bool) × List Char × Bool
  | [], acc => (acc.reverse, [], false)
  | '\n' :: rest, acc => (acc.reverse, rest, true)
  | '\x00' :: rest, acc => readInputLine raw rest acc
  | '\\' :: rest, acc =>
    if raw then readInputLine raw rest (('\\', false) :: acc)
    else
      match rest with
      | '\n' :: more => readInputLine raw more acc
      | c :: more => readInputLine raw more ((c, true) :: acc)
      | [] => (acc.reverse, [], false)
  | c :: rest, acc => readInputLine raw rest ((c, false) :: acc)

/-- Splits the first field off a line at the characters of `IFS`: the field and what follows
its separator. A separator is a run of blanks of `IFS`, with at most one other character of
`IFS` among them. -/
def nextReadField (ifs : List Char) (cs : List (Char × Bool)) : List (Char × Bool) × List (Char × Bool) :=
  let isBlankSep (p : Char × Bool) : Bool := !p.2 && ifs.contains p.1 && isIfsBlank p.1
  let field := cs.takeWhile fun (c, kept) => kept || !ifs.contains c
  let rest := (cs.drop field.length).dropWhile isBlankSep
  let rest := match rest with
    | (c, false) :: r => if ifs.contains c && !isIfsBlank c then r.dropWhile isBlankSep else rest
    | _ => rest
  (field, rest)

/-- The values `read` gives its variables from a line: a field each, and the last one the rest
of the line when more than one field is left for it. -/
def readValues (ifs : List Char) : List String → List (Char × Bool) → List (String × String)
  | [], _ => []
  | [n], cs =>
    let pieces := cs.map fun (c, kept) => Piece.text (String.singleton c) (!kept) kept
    match splitFields (String.ofList ifs) pieces with
    | [] => [(n, "")]
    | [f] => [(n, f.text)]
    | _ => [(n, String.ofList (cs.map (·.1)))]
  | n :: more, cs =>
    if cs.isEmpty then (n, "") :: readValues ifs more []
    else
      let (f, rest) := nextReadField ifs cs
      (n, String.ofList (f.map (·.1))) :: readValues ifs more rest

/-- `read`: reads a line of standard input into variables; the status is 1 when the input
ended before a line break. -/
def readBuiltin (args : List String) : ShellM Unit := do
  let (opts, names) ← readBuiltinOptions "read" ['r'] ['p'] args
  if names.isEmpty then builtinFail "read" "arg count"
  let raw := opts.any (·.1 == 'r')
  let (text, _, _) ← currentInput
  let (line, rest, complete) := readInputLine raw text.toList []
  leaveInput (String.ofList rest)
  let sh ← get
  let ifs := sh.ifs.toList
  let isBlankSep (p : Char × Bool) : Bool := !p.2 && ifs.contains p.1 && isIfsBlank p.1
  let line := line.dropWhile isBlankSep
  for (n, v) in readValues ifs names line do
    assign n v
  setStatus (if complete then 0 else 1)

/-! ## Directories -/

/-- `cd` of bash: as `cd` of the POSIX shell, with bash's complaints and the status 1. -/
def bashCd (args : List String) : ShellM Unit := do
  let args := args.dropWhile fun a => a == "-L" || a == "-P" || a == "-e" || a == "-@"
  let args := match args with
    | "--" :: rest => rest
    | rest => rest
  let sh ← get
  let fail (m : String) : ShellM Unit := do
    complain ("cd: " ++ m)
    setStatus 1
  match args with
  | _ :: _ :: _ => fail "too many arguments"
  | _ =>
    let chosen : Option (String × Bool) := match args with
      | [] => (sh.var? "HOME").map (·, false)
      | "-" :: _ => (sh.var? "OLDPWD").map (·, true)
      | d :: _ => some (d, false)
    match chosen with
    | none => fail (if args.isEmpty then "HOME not set" else "OLDPWD not set")
    | some (dest, print) =>
      let target := if dest.isEmpty then "." else dest
      let full := Path.cleanElements (Path.absolute sh.cwdPath target)
      match sh.tree.get? full with
      | some .dir =>
        let old := sh.cwdPath
        modify fun sh => { sh with cwd := full }
        assign "OLDPWD" old
        assign "PWD" ("/" ++ "/".intercalate full)
        if print then writeTo 1 ("/" ++ "/".intercalate full ++ "\n")
        setStatus 0
      | some (.file _ _) => fail (dest ++ ": Not a directory")
      | none => fail (dest ++ ": No such file or directory")

/-- `cd`: changes the working directory to a directory, `HOME` without one, or `OLDPWD` for
`-`, which it also writes; `PWD` and `OLDPWD` follow. -/
def cdBuiltin (args : List String) : ShellM Unit := do
  if (← get).dialect == .bash then bashCd args else
  let (_, args) ← readBuiltinOptions "cd" ['L', 'P'] [] args
  let sh ← get
  let (dest, print) := match args with
    | [] => ((sh.var? "HOME").getD "", false)
    | "-" :: _ => ((sh.var? "OLDPWD").getD "", true)
    | d :: _ => (d, false)
  let target := if dest.isEmpty then "." else dest
  let full := Path.cleanElements (Path.absolute sh.cwdPath target)
  if sh.tree.get? full == some .dir then
    let old := sh.cwdPath
    modify fun sh => { sh with cwd := full }
    assign "OLDPWD" old
    assign "PWD" ("/" ++ "/".intercalate full)
    if print then writeTo 1 ("/" ++ "/".intercalate full ++ "\n")
    setStatus 0
  else builtinFail "cd" ("can\x27t cd to " ++ dest)

/-- `pwd`: the working directory. -/
def pwdBuiltin (args : List String) : ShellM Unit := do
  let _ ← readBuiltinOptions "pwd" ['L', 'P'] [] args
  writeTo 1 ((← get).cwdPath ++ "\n")
  setStatus 0

/-! ## Signals -/

/-- The number of a signal given to `kill` or `trap`: a number below the limit, or a name
(case aside; bash also takes it after `SIG`); names start at `EXIT` (0) when `fromZero`. -/
def decodeSignal (bash : Bool) (s : String) (fromZero : Bool) : Option Nat :=
  if !s.isEmpty && s.all Char.isDigit then
    match s.toNat? with
    | some n => if n < signalLimit then some n else none
    | none => none
  else
    let s := if bash && s.toUpper.startsWith "SIG" then (s.drop 3).toString else s
    if fromZero && s.toUpper == "EXIT" then some 0
    else signalByName bash s

/-- The trap set for a signal, if any: its action, empty when the signal is ignored. -/
def trapFor (sh : Proc) (signal : Nat) : Option String :=
  (sh.traps.find? (·.1 == toString signal)).map (·.2)

/-- Sends a signal to the shell's own process. From a subshell it waits for the subshell to
end; a trapped one waits for the command to end. A stop signal stops the shell for good, since
nothing is left to continue it. -/
def signalSelf (signal : Nat) : ShellM Unit := do
  let sh ← get
  match trapFor sh signal with
  | some "" => pure ()
  | some _ => set { sh with pendingSignal := some signal }
  | none =>
    if signal == 0 || signalAction signal == .ignore then pure ()
    else if sh.subshellDepth > 0 then set { sh with pendingSignal := some signal }
    else if signalAction signal == .stop then throw .exhausted
    else throw (.killed signal)

/-- The text `kill -l` writes for an exit status or signal number. -/
def signalNameOf (n : Nat) : Option String :=
  if n < signalLimit then shellSignalName false n else none

/-- `kill`: sends a signal to processes. The only process left to signal is the shell's own;
any other is gone. -/
def killBuiltin (args : List String) : ShellM Unit := do
  let usage : ShellM Unit := builtinFail "kill"
    "Usage: kill [-s sigspec | -signum | -sigspec] [pid | job]... or\nkill -l [exitstatus]"
  if args.isEmpty then usage
  -- a first word that names a signal, else options
  let (signal, list, targets) ← match args with
    | first :: rest =>
      if first.startsWith "-" then
        match decodeSignal false (String.ofList (first.toList.drop 1)) false with
        | some s => pure (some s, false, rest)
        | none => do
          let (opts, rest') ← readBuiltinOptions "kill" ['l'] ['s'] args
          let mut sig : Option Nat := none
          for (c, v) in opts do
            if c == 's' then
              match decodeSignal false v false with
              | some s => sig := some s
              | none => builtinFail "kill" ("invalid signal number or name: " ++ v)
          pure (sig, opts.any (·.1 == 'l'), rest')
      else pure (none, false, args)
    | [] => pure (none, false, [])
  if list then
    match targets with
    | [] =>
      writeTo 1 ("0\n" ++ String.join ((List.range (signalLimit - 1)).map fun i =>
        (signalNameOf (i + 1)).getD (toString (i + 1)) ++ "\n"))
      setStatus 0
    | t :: _ =>
      let n ← match testInteger t with
        | .ok n => pure n
        | .error m => builtinFail "kill" m
      let n := if n > 128 then n - 128 else n
      if n > 0 && n < signalLimit then
        writeTo 1 ((signalNameOf n.toNat).getD (toString n) ++ "\n")
        setStatus 0
      else builtinFail "kill" ("invalid signal number or exit status: " ++ t)
  else
    let signal := signal.getD 15
    if targets.isEmpty then usage
    let mut failed := false
    for t in targets do
      let (negative, digits) := if t.startsWith "-" then (true, String.ofList (t.toList.drop 1)) else (false, t)
      let n ← match testInteger digits with
        | .ok n => if n < 0 || n > 2147483647 then builtinFail "kill" ("Illegal number: " ++ digits) else pure n.toNat
        | .error m => builtinFail "kill" m
      let sh ← get
      if !negative && n == sh.pid then signalSelf signal
      else if n == 0 then signalSelf signal
      else
        builtinWarn "kill" "No such process\n"
        failed := true
    setStatus (if failed then 1 else 0)

/-- A text in single quotes the shell reads back as it is: each run of characters other than
a single quote is written in single quotes, each run of single quotes in double quotes. -/
def singleQuote (s : String) : String :=
  let rec go : Nat → List Char → String → String
    | 0, _, acc => acc
    | fuel + 1, cs, acc =>
      let plain := cs.takeWhile (· != '\x27')
      let rest := cs.drop plain.length
      let acc := acc ++ "\x27" ++ String.ofList plain ++ "\x27"
      let quotes := rest.takeWhile (· == '\x27')
      if quotes.isEmpty then acc
      else
        let acc := acc ++ "\"" ++ String.ofList quotes ++ "\""
        let rest := rest.drop quotes.length
        if rest.isEmpty then acc else go fuel rest acc
  go (s.length + 1) s.toList ""

/-- `trap`: sets the action of signals, resets them with `-` or a leading number, or lists
the traps set. -/
def trapBuiltin (args : List String) : ShellM Unit := do
  let (_, args) ← readBuiltinOptions "trap" [] [] args
  match args with
  | [] =>
    let sh ← get
    let listed := (List.range signalLimit).filterMap fun n =>
      (trapFor sh n).map fun a =>
        "trap -- " ++ singleQuote a ++ " " ++ (if n == 0 then "EXIT" else (signalNameOf n).getD (toString n)) ++ "\n"
    writeTo 1 (String.join listed)
    setStatus 0
  | first :: rest =>
    let (action, signals) : Option String × List String :=
      if rest.isEmpty || (!first.isEmpty && first.all Char.isDigit) then (none, args)
      else if first == "-" then (none, rest)
      else (some first, rest)
    let mut status := 0
    for s in signals do
      if status == 0 then
        match decodeSignal false s true with
        | none =>
          writeTo 2 ("trap: " ++ s ++ ": bad trap\n")
          status := 1
        | some n =>
          modify fun sh => { sh with traps := (sh.traps.filter (·.1 != toString n)) ++
            (match action with
             | some a => [(toString n, a)]
             | none => []) }
    setStatus status

/-! ## Variables and parameters -/

/-- Sets a variable that is not read-only, or fails naming the builtin `who` (none for an
assignment of the shell itself). -/
def assignChecked (who name value : String) : ShellM Unit := do
  if (← get).readonly.contains name then
    if who.isEmpty then
      complain (name ++ ": is read only")
      setStatus 2
      throw .error
    else builtinFail who (name ++ ": is read only")
  else assign name value

/-- The lines of `set` and `export -p`: each variable with its value in single quotes. -/
def showVars (prefixText : String) (vars : List (String × Option String)) : String :=
  let sorted := vars.mergeSort fun a b => decide (a.1 ≤ b.1)
  String.join (sorted.map fun (k, v) =>
    prefixText ++ k ++ (match v with
      | some x => "=" ++ singleQuote x
      | none => "") ++ "\n")

/-- The option lines of `set -o` and `set +o`. -/
def showOptions (o : ShellOptions) (asCommands : Bool) : String :=
  let named : List (String × Bool) := [("errexit", o.errexit), ("noglob", o.noglob),
    ("ignoreeof", false), ("interactive", false), ("monitor", false), ("noexec", o.noexec),
    ("stdin", false), ("xtrace", o.xtrace), ("verbose", o.verbose), ("vi", false),
    ("emacs", false), ("noclobber", o.noclobber), ("allexport", o.allexport),
    ("notify", false), ("nounset", o.nounset), ("privileged", false), ("nolog", false),
    ("debug", false)]
  if asCommands then
    String.join (named.map fun (n, on) => "set " ++ (if on then "-o " else "+o ") ++ n ++ "\n")
  else
    "Current option settings\n" ++ String.join (named.map fun (n, on) =>
      n ++ String.ofList (List.replicate (16 - n.length) ' ') ++ (if on then "on" else "off") ++ "\n")

/-- `set`: turns options on and off and sets the positional parameters; alone it lists the
variables. -/
def setBuiltin (args : List String) : ShellM Unit := do
  if args.isEmpty then
    let sh ← get
    writeTo 1 (showVars "" (sh.vars.map fun (k, v) => (k, some v)))
    setStatus 0
  else
    let rec go : Nat → List String → ShellM Unit
      | 0, _ => pure ()
      | _ + 1, [] => pure ()
      | fuel + 1, a :: rest =>
        match a.toList with
        | '-' :: letters =>
          if letters.isEmpty then do
            modify fun sh => { sh with options := { sh.options with xtrace := false, verbose := false } }
            if !rest.isEmpty then modify fun sh => { sh with params := rest }
          else if letters == ['-'] then modify fun sh => { sh with params := rest }
          else do
            let rest ← setLetters true letters rest
            go fuel rest
        | '+' :: letters =>
          if letters.isEmpty then modify fun sh => { sh with params := rest }
          else do
            let rest ← setLetters false letters rest
            go fuel rest
        | _ => modify fun sh => { sh with params := a :: rest }
    go (args.length + 1) args
    setStatus 0
where
  /-- Sets the options of the letters of one word: the words left. -/
  setLetters (on : Bool) : List Char → List String → ShellM (List String)
    | [], rest => pure rest
    | c :: more, rest =>
      if c == 'o' then
        match rest with
        | name :: after => do
          match (← get).options.setName name on with
          | some o => modify fun sh => { sh with options := o }
          | none =>
            if !ignoredOptionNames.contains name then builtinFail "set" ("Illegal option -o " ++ name)
          setLetters on more after
        | [] => do
          writeTo 1 (showOptions (← get).options (!on))
          setLetters on more []
      else do
        match (← get).options.setLetter c on with
        | some o =>
          modify fun sh => { sh with options := o }
          setLetters on more rest
        | none =>
          if ignoredOptionLetters.contains c && c != 's' && c != 'c' then setLetters on more rest
          else builtinFail "set" ("Illegal option " ++ (if on then "-" else "+") ++ String.singleton c)

/-- `shift`: drops positional parameters. -/
def shiftBuiltin (args : List String) : ShellM Unit := do
  if (← get).dialect == .bash then
    let n : Option Int := match args with
      | a :: _ => (testInteger a).toOption
      | [] => some 1
    match n with
    | none =>
      complain ("shift: " ++ args.headD "" ++ ": numeric argument required")
      setStatus 1
    | some n =>
      let sh ← get
      if n < 0 then
        complain ("shift: " ++ toString n ++ ": shift count out of range")
        setStatus 1
      else if n.toNat > sh.params.length then setStatus 1
      else
        set { sh with params := sh.params.drop n.toNat }
        setStatus 0
  else
  let n ← match args with
    | a :: _ => countArg "shift" a
    | [] => pure 1
  let sh ← get
  if n > sh.params.length then builtinFail "shift" "can\x27t shift that many"
  set { sh with params := sh.params.drop n }
  setStatus 0

/-- `export` and `readonly`: mark variables, giving those with `=` a value; with `-p` or no
names they list the marked variables. -/
def exportBuiltin (readonly : Bool) (args : List String) : ShellM Unit := do
  let name := if readonly then "readonly" else "export"
  let (opts, names) ← readBuiltinOptions name ['p'] [] args
  if names.isEmpty || opts.any (·.1 == 'p') then
    let sh ← get
    let marked := if readonly then sh.readonly else sh.exported
    writeTo 1 (showVars (name ++ " ") (marked.map fun k => (k, sh.var? k)))
    setStatus 0
  else
    for a in names do
      let key := String.ofList (a.toList.takeWhile (· != '='))
      if !isName key then builtinFail name (key ++ ": bad variable name")
      if key.length < a.length then assignChecked name key (String.ofList (a.toList.drop (key.length + 1)))
      modify fun sh =>
        if readonly then { sh with readonly := if sh.readonly.contains key then sh.readonly else sh.readonly ++ [key] }
        else { sh with exported := if sh.exported.contains key then sh.exported else sh.exported ++ [key] }
    setStatus 0

/-- `unset` of bash: removes variables, elements of arrays (`name[subscript]`), or functions with
`-f`; one that is read only is reported and the status is 1. -/
def bashUnset (args : List String) : ShellM Unit := do
  let functions := args.head? == some "-f"
  let names := args.dropWhile fun a => a == "-f" || a == "-v" || a == "-n" || a == "--"
  let mut status := 0
  for n in names do
    let sh ← get
    if functions then modify fun sh => { sh with functions := sh.functions.filter (·.1 != n) }
    else if sh.readonly.contains n then
      complain ("unset: " ++ n ++ ": cannot unset: readonly variable")
      status := 1
    else
      match n.splitOn "[" with
      | [base, rest] =>
        if rest.endsWith "]" then
          let key := (rest.dropEnd 1).toString
          modify fun sh => { sh with arrays := sh.arrays.map fun (k, a) =>
            if k == base then (k, { a with items := a.items.filter (·.1 != key) }) else (k, a) }
        else
          complain ("unset: \x60" ++ n ++ "\x27: not a valid identifier")
          status := 1
      | _ =>
        if isName n then
          unassign n
          if !sh.vars.any (·.1 == n) && !sh.arrays.any (·.1 == n) then
            modify fun sh => { sh with functions := sh.functions.filter (·.1 != n) }
        else
          complain ("unset: \x60" ++ n ++ "\x27: not a valid identifier")
          status := 1
  setStatus status

/-- `unset`: removes variables, or functions with `-f`. -/
def unsetBuiltin (args : List String) : ShellM Unit := do
  if (← get).dialect == .bash then bashUnset args else
  let (opts, names) ← readBuiltinOptions "unset" ['v', 'f'] [] args
  let functions := (opts.getLast?.map (·.1)) == some 'f'
  for n in names do
    if functions then modify fun sh => { sh with functions := sh.functions.filter (·.1 != n) }
    else if (← get).readonly.contains n then builtinFail "unset" (n ++ ": is read only")
    else unassign n
  setStatus 0

/-- `local`: makes variables local to the function running, keeping their value unless one is
given. -/
def localBuiltin (args : List String) : ShellM Unit := do
  let sh ← get
  match sh.locals with
  | [] => builtinFail "local" "not in a function"
  | frame :: outer =>
    let mut frame := frame
    for a in args do
      let key := String.ofList (a.toList.takeWhile (· != '='))
      if !isName key then builtinFail "local" (key ++ ": bad variable name")
      if !frame.any (·.1 == key) then frame := frame ++ [(key, (← get).var? key)]
      modify fun sh => { sh with locals := frame :: outer }
      if key.length < a.length then assignChecked "local" key (String.ofList (a.toList.drop (key.length + 1)))
    setStatus 0

/-- A file mode mask in four octal digits. -/
def octalMask (m : Nat) : String :=
  let digits := (Nat.toDigits 8 m)
  String.ofList (List.replicate (4 - digits.length) '0' ++ digits)

/-- Applies the rest of a symbolic mode such as `u=rwx,go-w` to the permissions `p`, where
`perm` are the permissions before and `positions` the classes of the current clause (`none` at
the start of a clause): the new permissions, or `none` when the text is not a mode. -/
def symbolicSteps (perm : Nat) : Nat → Nat → Option Nat → List Char → Option Nat
  | 0, p, _, _ => some p
  | fuel + 1, p, none, cs =>
    let who := cs.takeWhile fun c => "augo".toList.contains c
    let positions := who.foldl (fun acc c =>
      acc ||| (if c == 'a' then 73 else if c == 'u' then 64 else if c == 'g' then 8 else 1)) 0
    symbolicSteps perm fuel p (some (if positions == 0 then 73 else positions)) (cs.drop who.length)
  | fuel + 1, p, some positions, cs =>
    match cs with
    | op :: more =>
      if "=+-".toList.contains op then
        let letters := more.takeWhile fun c => "rwxugoXs".toList.contains c
        let value := letters.foldl (fun v c =>
          if c == 'r' then v ||| 4 else if c == 'w' then v ||| 2 else if c == 'x' then v ||| 1
          else if c == 'u' then v ||| (perm >>> 6) else if c == 'g' then v ||| (perm >>> 3)
          else if c == 'o' then v ||| perm
          else if c == 'X' then (if perm &&& 73 != 0 then v ||| 1 else v) else v) 0
        let value := (value % 8) * positions
        let p := if op == '-' then p &&& (511 ^^^ value)
          else if op == '=' then value ||| (p &&& (511 ^^^ (positions * 7)))
          else p ||| value
        match more.drop letters.length with
        | ',' :: after => symbolicSteps perm fuel p none after
        | [] => some p
        | after =>
          if after.head?.any fun c => "=+-".toList.contains c then symbolicSteps perm fuel p (some positions) after
          else none
      else none
    | [] => none

/-- Applies a symbolic mode to the permissions `perm`. -/
def symbolicMask (perm : Nat) (mode : List Char) : Option Nat :=
  if mode.isEmpty then some perm else symbolicSteps perm (2 * mode.length + 2) perm none mode

/-- `umask`: the mask of permissions new files do not get. -/
def umaskBuiltin (args : List String) : ShellM Unit := do
  let (symbolic, rest) ← readBuiltinOptions "umask" ['S'] [] args
  let mask := (← get).fileMask
  match rest with
  | [] =>
    if symbolic.any (·.1 == 'S') then
      let perm := 511 ^^^ mask
      let part (i : Nat) : String :=
        String.singleton ("ugo".toList.getD i 'u') ++ "=" ++
          String.ofList ((List.range 3).filterMap fun j =>
            if (perm >>> (8 - (3 * i + j))) % 2 == 1 then "rwx".toList[j]? else none)
      writeTo 1 (",".intercalate ((List.range 3).map part) ++ "\n")
    else writeTo 1 (octalMask mask ++ "\n")
    setStatus 0
  | a :: _ =>
    if a.toList.head?.any Char.isDigit then
      if a.all fun c => '0' ≤ c && c ≤ '7' then
        modify fun sh => { sh with fileMask := (a.toList.foldl (fun n c => n * 8 + (c.toNat - 48)) 0) % 512 }
        setStatus 0
      else builtinFail "umask" ("Illegal number: " ++ a)
    else
      match symbolicMask (511 ^^^ mask) a.toList with
      | some perm =>
        modify fun sh => { sh with fileMask := 511 ^^^ (perm % 512) }
        setStatus 0
      | none => builtinFail "umask" ("Illegal mode: " ++ a)

/-- One step of `getopts` over `words`: the option letter found (`?` for a bad one, `:` for a
missing argument when the letters start with `:`), its argument, a message, whether the
options are done, and the next word and offset in it. When the options are done the argument
is left as it was. -/
def getoptsStep (letters : List Char) (words : List String) (index : Nat) (offset : Option Nat) :
    Char × Option String × String × Bool × Nat × Option Nat :=
  let silent := letters.head? == some ':'
  -- the rest of the current word, when the last step stopped inside one
  let inside : Option (List Char) := match offset with
    | some off => if index ≥ 2 then (words[index - 2]?).bind fun w =>
        if off ≤ w.length then some (w.toList.drop off) else none else none
    | none => none
  let start : Option (List Char × Nat) := match inside with
    | some (c :: more) => some (c :: more, index)
    | _ =>
      match words[index - 1]? with
      | some w =>
        match w.toList with
        | '-' :: c :: more => if c == '-' && more.isEmpty then none else some (c :: more, index + 1)
        | _ => none
      | none => none
  match start with
  | none =>
    let next := match inside, words[index - 1]? with
      | some (_ :: _), _ => index
      | _, some "--" => index + 1
      | _, _ => index
    ('?', none, "", true, next, none)
  | some ([], next) => ('?', none, "", true, next, none)
  | some (c :: more, next) =>
    let word := (words[next - 2]?).getD ""
    let consumed := word.length - more.length
    let rec find : List Char → Option Bool
      | [] => none
      | x :: ':' :: rest => if x == c then some true else find rest
      | x :: rest => if x == c then some false else find rest
    match find letters with
    | none =>
      let (arg, msg) := if silent then (some (String.singleton c), "") else (none, "Illegal option -" ++ String.singleton c ++ "\n")
      ('?', arg, msg, false, next, if more.isEmpty then none else some consumed)
    | some false => (c, some "", "", false, next, if more.isEmpty then none else some consumed)
    | some true =>
      if !more.isEmpty then (c, some (String.ofList more), "", false, next, none)
      else
        match words[next - 1]? with
        | some a => (c, some a, "", false, next + 1, none)
        | none =>
          if silent then (':', some (String.singleton c), "", false, next, none)
          else ('?', none, "No arg for -" ++ String.singleton c ++ " option\n", false, next, none)

/-- `getopts`: reads the next option of the positional parameters, or of the words given,
into a variable, with its argument in `OPTARG` and the index of the next word in `OPTIND`. -/
def getoptsBuiltin (args : List String) : ShellM Unit := do
  match args with
  | optstring :: var :: given =>
    let sh ← get
    let words := if given.isEmpty then sh.params else given
    let index := if sh.optIndex > words.length + 1 || sh.optIndex == 0 then 1 else sh.optIndex
    let offset := if sh.optIndex > words.length + 1 then none else sh.optOffset
    let (c, arg, msg, done, next, off) := getoptsStep optstring.toList words index offset
    writeTo 2 msg
    match arg with
    | some a => assign "OPTARG" a
    | none => if done then pure () else unassign "OPTARG"
    modify fun sh => { sh with vars := Proc.withVar sh.vars "OPTIND" (toString next) }
    assign var (String.singleton c)
    modify fun sh => { sh with optIndex := next, optOffset := off }
    setStatus (if done then 1 else 0)
  | _ => builtinFail "getopts" "Usage: getopts optstring var [arg...]"

/-! ## Finding commands -/

/-- The special builtins: their assignments stay, and their errors end the shell. -/
def specialBuiltins : List String :=
  [".", ":", "break", "continue", "eval", "exec", "exit", "export", "readonly", "return", "set",
    "shift", "times", "trap", "unset"]

/-- The other builtins. -/
def regularBuiltins : List String :=
  ["alias", "bg", "cd", "chdir", "command", "echo", "false", "fg", "getopts", "hash", "jobs",
    "kill", "local", "printf", "pwd", "read", "test", "[", "true", "type", "ulimit", "umask",
    "unalias", "wait"]

/-! ## Limits of resources -/

/-- A limit on a resource of the process: its letter, its name in a listing, the unit its
numbers count in (in bytes, or 1), and its soft and hard values as the system starts them,
`none` being unlimited. -/
structure ResourceLimit where
  letter : Char
  title : String
  factor : Nat
  soft : Option Nat
  hard : Option Nat

/-- The limits `ulimit` knows, in the order it lists them, with the values of the system. -/
def resourceLimits : List ResourceLimit := [
  ⟨'t', "time(seconds)", 1, none, none⟩,
  ⟨'f', "file(blocks)", 512, none, none⟩,
  ⟨'d', "data(kbytes)", 1024, none, none⟩,
  ⟨'s', "stack(kbytes)", 1024, some (8192 * 1024), none⟩,
  ⟨'c', "coredump(blocks)", 512, none, none⟩,
  ⟨'m', "memory(kbytes)", 1024, none, none⟩,
  ⟨'l', "locked memory(kbytes)", 1024, some (8192 * 1024), some (8192 * 1024)⟩,
  ⟨'p', "process", 1, none, none⟩,
  ⟨'n', "nofiles", 1, some 1048576, some 1048576⟩,
  ⟨'v', "vmemory(kbytes)", 1024, none, none⟩,
  ⟨'w', "locks", 1, none, none⟩,
  ⟨'r', "rtprio", 1, some 0, some 0⟩]

/-- The soft and hard value of a limit in a shell: as set there, or as the system starts it. -/
def limitValues (sh : Proc) (l : ResourceLimit) : Option Nat × Option Nat :=
  match sh.limits.find? (·.1 == l.letter) with
  | some (_, soft, hard) => (soft, hard)
  | none => (l.soft, l.hard)

/-- A limit as `ulimit` writes it, in its unit. -/
def limitText (l : ResourceLimit) : Option Nat → String
  | none => "unlimited\n"
  | some v => toString (v / l.factor) ++ "\n"

/-- Whether a soft limit lies above a hard one; no limit is above every number. -/
def limitAbove : Option Nat → Option Nat → Bool
  | none, some _ => true
  | some s, some h => s > h
  | _, none => false

/-- `ulimit`: writes a limit (the file size one unless a letter names another), or with `-a`
all of them, or sets one from `unlimited` or a count in its unit. `-H` and `-S` choose the
hard or the soft value; setting without them sets both. -/
def ulimitBuiltin (args : List String) : ShellM Unit := do
  let (opts, operands) ← readBuiltinOptions "ulimit" ("HSa".toList ++ resourceLimits.map (·.letter)) [] args
  let which := opts.foldl (fun (acc : Bool × Bool) (c, _) =>
    if c == 'H' then (false, true) else if c == 'S' then (true, false) else acc) (true, true)
  let all := opts.any (·.1 == 'a')
  let letter := (opts.filter fun (c, _) => c != 'H' && c != 'S' && c != 'a').getLast?.map (·.1)
  let l := (resourceLimits.find? (some ·.letter == letter)).getD
    ⟨'f', "file(blocks)", 512, none, none⟩
  let sh ← get
  let shown (l : ResourceLimit) : Option Nat :=
    let (soft, hard) := limitValues sh l
    if which.1 then soft else hard
  match operands with
  | [] =>
    if all then
      writeTo 1 (String.join (resourceLimits.map fun l =>
        String.ofList (l.title.toList ++ List.replicate (20 - l.title.length) ' ') ++ " " ++
          limitText l (shown l)))
    else writeTo 1 (limitText l (shown l))
    setStatus 0
  | [v] =>
    if all then builtinFail "ulimit" "too many arguments"
    else
      let value : Option (Option Nat) :=
        if v == "unlimited" then some none
        else
          let digits := v.toList.takeWhile Char.isDigit
          if digits.length == v.length then some (some (((String.ofList digits).toNat?.getD 0) * l.factor))
          else none
      match value with
      | none => builtinFail "ulimit" "bad number"
      | some val =>
        let (soft, hard) := limitValues sh l
        let soft := if which.1 then val else soft
        let hard := if which.2 then val else hard
        let tooHigh := l.letter == 'n' && (hard.isNone || hard.any (· > 1048576))
        let softAbove := limitAbove soft hard
        if tooHigh || softAbove then
          builtinFail "ulimit" (if softAbove then "error setting limit (Invalid argument)"
            else "error setting limit (Operation not permitted)")
        else
          modify fun sh => { sh with limits := (l.letter, soft, hard) :: sh.limits.filter (·.1 != l.letter) }
          setStatus 0
  | _ => builtinFail "ulimit" "too many arguments"

/-! ## Aliases -/

/-- The bucket of a name in the shell's table of aliases, which orders their listing: the
first byte times sixteen plus the sum of all bytes, modulo 39. -/
def aliasBucket (name : String) : Nat :=
  let bytes := name.toList.map (·.toNat)
  (bytes.headD 0 * 16 + bytes.foldl (· + ·) 0) % 39

/-- An alias as `alias` writes it: the name, `=`, and the text quoted. -/
def aliasLine (entry : String × String) : String :=
  entry.1 ++ "=" ++ singleQuote entry.2 ++ "\n"

/-- The aliases in the order `alias` lists them: by bucket, and in the order they were
defined within one. -/
def listedAliases (aliases : AliasTable) : AliasTable :=
  aliases.mergeSort fun a b => aliasBucket a.1 ≤ aliasBucket b.1

/-- A table with an alias set: an alias defined before keeps its place. -/
def AliasTable.set (aliases : AliasTable) (name value : String) : AliasTable :=
  if aliases.any (·.1 == name) then aliases.map fun e => if e.1 == name then (name, value) else e
  else aliases ++ [(name, value)]

/-- `alias`: defines each `name=value`, writes each alias named alone, or with no operands
lists them all. An alias named that does not exist is reported without the script's name. -/
def aliasBuiltin (args : List String) : ShellM Unit := do
  if args.isEmpty then
    writeTo 1 (String.join ((listedAliases (← get).aliases).map aliasLine))
    setStatus 0
  else
    let mut status := 0
    for a in args do
      -- the name has at least one character, so a leading `=` belongs to it
      let name := String.ofList (a.toList.take 1 ++ (a.toList.drop 1).takeWhile (· != '='))
      if name.length < a.length then
        let value := String.ofList (a.toList.drop (name.length + 1))
        modify fun sh => { sh with aliases := sh.aliases.set name value }
      else
        match (← get).aliases.find? (·.1 == a) with
        | some e => writeTo 1 (aliasLine e)
        | none =>
          writeTo 2 ("alias: " ++ a ++ " not found\n")
          status := 1
    setStatus status

/-- `unalias`: removes the aliases named, or all of them with `-a`. -/
def unaliasBuiltin (args : List String) : ShellM Unit := do
  let (opts, names) ← readBuiltinOptions "unalias" ['a'] [] args
  if opts.any (·.1 == 'a') then
    modify fun sh => { sh with aliases := [] }
    setStatus 0
  else
    let mut status := 0
    for n in names do
      if (← get).aliases.any (·.1 == n) then
        modify fun sh => { sh with aliases := sh.aliases.filter (·.1 != n) }
      else
        builtinWarn "unalias" (n ++ ": not found")
        status := 1
    setStatus status

/-- What a command name is to the shell. -/
inductive CommandKind where
  | keyword
  | special
  | function
  | builtin
  | program (path : String) (tracked : Bool)
  | missing
  deriving Repr, DecidableEq, Inhabited

/-- The builtins only bash has. -/
def bashBuiltins : List String :=
  ["source", "let", "declare", "typeset", "shopt", "mapfile", "readarray", "builtin", "caller",
    "compgen", "complete", "compopt", "dirs", "disown", "enable", "help", "history", "logout",
    "popd", "pushd", "suspend", "bind", "fc"]

/-- What the shell runs for a command name: a name with a slash is a program where it names
one; else a special builtin, a function, a builtin, or the first regular file on `PATH`. Bash
looks for a function first, and has builtins of its own; for the POSIX shell `local` is
special too. -/
def commandKind (sh : Proc) (name : String) (keywords : Bool) : CommandKind :=
  let bash := sh.dialect == .bash
  if keywords && (if bash then bashReservedWords else reservedWords).contains name then .keyword
  else if name.contains '/' then
    if isRegularAt sh.tree sh.cwd name then .program name false else .missing
  else if bash && sh.functions.any (·.1 == name) then .function
  else if specialBuiltins.contains name || (!bash && name == "local") then .special
  else if sh.functions.any (·.1 == name) then .function
  else if regularBuiltins.contains name || (bash && bashBuiltins.contains name) then .builtin
  else
    match sh.hashed.find? (·.1 == name) with
    | some (_, p) => .program p true
    | none =>
      match (pathCandidates ((sh.var? "PATH").getD "") name).find? (isRegularAt sh.tree sh.cwd) with
      | some p => .program p false
      | none => .missing

/-- `type`, and `command -v` and `-V`: how each name would be run. `verbose` says it in words;
otherwise the name or path alone. Status 127 when one is not found. A program found on the
search path is remembered in the table of `hash`. -/
def describeCommands (verbose : Bool) (names : List String) : ShellM Unit := do
  let mut status := 0
  for n in names do
    let sh ← get
    let aliased := if reservedWords.contains n then none else sh.aliases.find? (·.1 == n)
    let text := match aliased, commandKind sh n true with
      | some e, _ => if verbose then n ++ " is an alias for " ++ e.2 ++ "\n" else "alias " ++ aliasLine e
      | none, kind =>
      match kind with
      | .keyword => if verbose then n ++ " is a shell keyword\n" else n ++ "\n"
      | .special => if verbose then n ++ " is a special shell builtin\n" else n ++ "\n"
      | .function => if verbose then n ++ " is a shell function\n" else n ++ "\n"
      | .builtin => if verbose then n ++ " is a shell builtin\n" else n ++ "\n"
      | .program p tracked =>
        if verbose then n ++ " is " ++ (if tracked then "a tracked alias for " else "") ++ p ++ "\n"
        else p ++ "\n"
      | .missing => if verbose then n ++ ": not found\n" else ""
    writeTo 1 text
    -- a program found on the search path is remembered, as running it would
    match aliased, commandKind sh n true with
    | none, .program p false =>
      if !n.contains '/' && sh.dialect == .posix then
        modify fun sh => { sh with hashed := sh.hashed ++ [(n, p)] }
    | _, _ => pure ()
    if aliased.isNone && commandKind sh n true == .missing then status := 127
  setStatus status

/-- `hash`: the commands found on `PATH` so far, or forgets them with `-r`. -/
def hashBuiltin (args : List String) : ShellM Unit := do
  let (opts, _) ← readBuiltinOptions "hash" ['r', 'v'] [] args
  if opts.any (·.1 == 'r') then modify fun sh => { sh with hashed := [] }
  else writeTo 1 (String.join ((← get).hashed.map fun (_, p) => p ++ "\n"))
  setStatus 0

end Regress.Shell
