import Regress.Shell.BashBuiltins
import Regress.Shell.Arith
import Regress.Shell.Launch
import Regress.Shell.Awk.Command
import Regress.Text.Regex

/-!
# Running shell scripts

The evaluator runs the commands of a script on a `Proc`, the state of a running shell.

* **Words** expand part by part. The text of unquoted expansions is split at the characters of
  `IFS` and, unless `set -f`, taken as a pattern for file names; quoted text never is.
  Assignments, redirection targets and the subject of `case` are expanded without either.
* **Simple commands** expand their words, then open their redirections, then expand their
  assignments. A name is a special builtin, a function, a builtin, or a program found on
  `PATH`; one with a slash is a program at that path. Assignments before a special builtin
  stay; before a function or builtin they last while it runs; before a program they are only
  its environment.
* **Processes.** A program runs as a new process: it sees the exported variables and gets
  the next process number. A process a signal ends gives the status 128 and the signal's
  number, and the shell names the signal on its standard error. Subshells, the stages of a
  pipeline of several commands, command substitutions and commands in the background run as
  copies of the shell; the stages one after the other, each one's output the next one's input.
* **Errors.** An error of the shell is reported with the script's name and line and ends the
  shell with the status 2, a subshell ending only itself; an error of a builtin that is not
  special only fails that builtin. Under `set -e` a command that fails outside a condition ends
  the shell with its status. When the shell ends, its `EXIT` trap runs first.

In bash an error of an expansion (a bad substitution, an arithmetic error, an assignment to a
read-only variable) fails the status 1 and drops the rest of the top-level line; `[[ ... ]]`,
`(( ... ))`, arrays, `PIPESTATUS`, the `ERR` trap and the builtins of bash run here too.

Every function takes fuel, which bounds how deep evaluation may go and how many rounds a loop
may take; a script that runs out of it ends as if it had been killed.
-/

namespace Regress.Shell

/-- A text without the line breaks at its end, as a command substitution gives it. -/
def stripTrailingNewlines (s : String) : String :=
  String.ofList (s.toList.reverse.dropWhile (· == '\n')).reverse

/-- Whether a parameter counts as unset: it is not set, or it is empty and `colon` says that
an empty one counts. -/
def isUnset (v : Option String) (colon : Bool) : Bool :=
  match v with
  | none => true
  | some s => colon && s.isEmpty

/-- Whether a parameter is special or positional rather than a variable. -/
def isSpecialName (name : String) : Bool :=
  match name.toList with
  | [c] => isSpecialParam c
  | cs => cs.all Char.isDigit

/-- How the body of a loop ended. -/
inductive LoopFlow where
  | normal
  | stopLoop
  | nextRound
  deriving Repr, DecidableEq

/-- Runs a step of a loop, turning the `break` and `continue` aimed at this loop into a flow. -/
def loopBody (body : ShellM Unit) : ShellM LoopFlow :=
  tryCatch (do body; pure .normal) fun
    | .breakLoop n => if n > 1 then throw (.breakLoop (n - 1)) else pure .stopLoop
    | .continueLoop n => if n > 1 then throw (.continueLoop (n - 1)) else pure .nextRound
    | stop => throw stop

/-- Why a file could not be opened for reading, as the shell says it. -/
def openReason : Errno → String
  | .noEntry => "No such file"
  | .notDir => "No such file"
  | e => errnoText e

/-- Why a file could not be created, as the shell says it. -/
def createReason : Errno → String
  | .noEntry => "Directory nonexistent"
  | .notDir => "Directory nonexistent"
  | e => errnoText e

/-- Why a program could not be run, as the shell says it, with the status it gives. -/
def execFailure : Errno → String × Nat
  | .noEntry => ("not found", 127)
  | .notDir => ("not found", 2)
  | .permissionDenied => ("Permission denied", 126)
  | e => (errnoText e, 2)

/-- Reports an error of the shell and fails with the status 2. -/
def shellFail {α : Type} (msg : String) : ShellM α := do
  complain msg
  setStatus 2
  throw .error

/-- Reports an error of bash's expansions: the rest of the top-level line is dropped, and the
status is 1. -/
def abandonLine {α : Type} (msg : String) : ShellM α := do
  complain msg
  setStatus 1
  throw .abandon

/-- Reports an error that ends a shell of bash, with the status 1. -/
def bashExit {α : Type} (msg : String) : ShellM α := do
  complain msg
  throw (.exit 1)

/-- Reports an error of the expansions in the shell's way: bash drops the rest of the line,
the POSIX shell fails with the status 2. -/
def expansionFail {α : Type} (msg : String) : ShellM α := do
  if (← get).dialect == .bash then abandonLine msg else shellFail msg

/-- The message for a malformed expansion whose text is `raw`. -/
def badSubstitutionOf (sh : Proc) (raw : String) : String :=
  if sh.dialect == .bash then raw ++ ": bad substitution" else "Bad substitution"

/-- What a parameter of bash holds: one value, or several, as `@`, `*` and the elements of an
array do, with whether they join into one text as `*` does. -/
inductive ParamValue where
  | one (v : Option String)
  | many (items : List String) (joined : Bool)
  deriving Repr, Inhabited

/-- A parameter value with a change made to each of its values. -/
def ParamValue.map (f : String → String) : ParamValue → ParamValue
  | .one v => .one (v.map f)
  | .many items j => .many (items.map f) j

/-- Whether a parameter value counts as unset: nothing there, or with `colon` only empty
text. -/
def ParamValue.isUnset (colon : Bool) : ParamValue → Bool
  | .one v => Regress.Shell.isUnset v colon
  | .many items _ => items.isEmpty || (colon && items.all (·.isEmpty))

/-- The length of the longest start of a text that a pattern matches, if it matches one. -/
def longestMatchAt (p : List PatternElem) (cs : List Char) : Option Nat :=
  (List.range (cs.length + 1)).reverse.find? fun n => PatternElem.matchAll p (cs.take n)

/-- Replaces the matches of a pattern in a text, from the left, each with the text `rep`
gives for it: every one, or only the first. A match must not be empty. -/
def replaceMatches (p : List PatternElem) (rep : List Char → String) (every : Bool) :
    Nat → List Char → String → String
  | 0, cs, acc => acc ++ String.ofList cs
  | _ + 1, [], acc => acc
  | fuel + 1, c :: rest, acc =>
    match longestMatchAt p (c :: rest) with
    | some (n + 1) =>
      let acc := acc ++ rep ((c :: rest).take (n + 1))
      if every then replaceMatches p rep every fuel ((c :: rest).drop (n + 1)) acc
      else acc ++ String.ofList ((c :: rest).drop (n + 1))
    | _ => replaceMatches p rep every fuel rest (acc.push c)

/-- The text of `${name/pattern/text}` and its kin: the matches of the pattern replaced, by the
mode; an empty pattern replaces nothing, except at the start or the end, where the text is
put. -/
def replaceText (mode : ReplaceMode) (p : List PatternElem) (emptyPattern : Bool)
    (rep : List Char → String) (s : String) : String :=
  let cs := s.toList
  match mode with
  | .every => if emptyPattern then s else replaceMatches p rep true (cs.length + 1) cs ""
  | .first => if emptyPattern then s else replaceMatches p rep false (cs.length + 1) cs ""
  | .atStart =>
    match longestMatchAt p cs with
    | some n => if n == 0 && !emptyPattern then s else rep (cs.take n) ++ String.ofList (cs.drop n)
    | none => s
  | .atEnd =>
    if emptyPattern then s ++ rep []
    else
      match (List.range (cs.length + 1)).find? fun i => PatternElem.matchAll p (cs.drop i) with
      | some i => if i == cs.length then s else String.ofList (cs.take i) ++ rep (cs.drop i)
      | none => s

/-- The text of a replacement for a match: an `&` that is not quoted stands for the match. -/
def patternReplacement (field : Field) (matched : List Char) : String :=
  String.join (field.map fun (c, quoted) => if c == '&' && !quoted then String.ofList matched else String.singleton c)

/-- A text with its case changed as `${name^pattern}` and its kin change it: to capitals or
small letters, the first character only or all, and only characters the pattern matches
(any, when it is empty). -/
def changeCaseText (upper all : Bool) (p : Option (List PatternElem)) (s : String) : String :=
  let fits (c : Char) : Bool := match p with
    | some p => PatternElem.matchAll p [c]
    | none => true
  let conv (c : Char) : Char := if fits c then (if upper then c.toUpper else c.toLower) else c
  match s.toList with
  | [] => s
  | c :: rest => if all then String.ofList ((c :: rest).map conv) else String.ofList (conv c :: rest)

/-- A part of a text as `${name:offset:length}` takes it: the offset counts from the end when it
is negative, and a negative length leaves that many characters off the end. `none` when the
length ends before the offset. -/
def substringOf {α : Type} (items : List α) (offset : Int) (length : Option Int) : Option (List α) :=
  let n : Int := items.length
  let start := if offset < 0 then n + offset else offset
  if start < 0 || start > n then some []
  else
    let rest := items.drop start.toNat
    match length with
    | none => some rest
    | some l =>
      if l ≥ 0 then some (rest.take l.toNat)
      else
        let stop := n + l
        if stop < start then none else some (rest.take (stop - start).toNat)

/-- Whether bash's conditional test `-v` holds of a name: a variable or an element that is set. -/
def isSetName (sh : Proc) (name : String) : Bool :=
  match splitSubscript name with
  | some (base, sub) =>
    match sh.array? base with
    | some arr => if sub == "@" || sub == "*" then !arr.items.isEmpty else (arr.get? sub).isSome
    | none => sub == "0" && (sh.var? base).isSome
  | none => (sh.lookup name).isSome

/-- A regular expression of bash's `=~` from the expanded operand: quoted characters stand for
themselves. -/
def regexSource (field : Field) : String :=
  String.join (field.map fun (c, quoted) =>
    if quoted && "\\.[]()*+?\x7b\x7d|^$".toList.contains c then "\\" ++ String.singleton c
    else String.singleton c)

/-- The separator `"$*"` joins the parameters with: the first character of `IFS`, a blank
when it is unset, nothing when it is empty. -/
def starSeparator (sh : Proc) : String :=
  match sh.var? "IFS" with
  | some v => String.ofList (v.toList.take 1)
  | none => " "

/-- The home directories of the accounts of the system. -/
def userHome (name : String) : Option String :=
  ([("root", "/root"), ("daemon", "/usr/sbin"), ("bin", "/bin"), ("sys", "/dev"), ("sync", "/bin"),
    ("games", "/usr/games"), ("man", "/var/cache/man"), ("lp", "/var/spool/lpd"),
    ("mail", "/var/mail"), ("news", "/var/spool/news"), ("uucp", "/var/spool/uucp"),
    ("proxy", "/bin"), ("www-data", "/var/www"), ("backup", "/var/backups"), ("list", "/var/list"),
    ("irc", "/run/ircd"), ("_apt", "/nonexistent"), ("nobody", "/nonexistent")].find? (·.1 == name)).map (·.2)

/-- Replaces a leading `~` of a word, alone or before a slash, by the home directory, and
`~name` by the home directory of that account. -/
def expandTilde (home : Option String) : Word → Word
  | .text s false :: rest =>
    match s.toList with
    | '~' :: after =>
      let name := String.ofList (after.takeWhile (· != '/'))
      let dir := if name.isEmpty then home.filter (!·.isEmpty) else userHome name
      match dir with
      | some h => .text h true :: .text (String.ofList (after.drop name.length)) false :: rest
      | none => .text s false :: rest
    | _ => .text s false :: rest
  | w => w

/-- Sets variables for the length of a step: their old values, to be put back. -/
def pushTemporary (values : List (String × String)) : ShellM (List (String × Option String)) := do
  let sh ← get
  let saved := values.map fun (k, _) => (k, sh.var? k)
  for (k, v) in values do assign k v
  pure saved

/-- Puts back variables set for a step. -/
def popTemporary (saved : List (String × Option String)) : ShellM Unit := do
  for (k, v) in saved.reverse do
    match v with
    | some x => modify fun sh => { sh with vars := Proc.withVar sh.vars k x }
    | none => modify fun sh => { sh with vars := sh.vars.filter (·.1 != k) }

/-- Writes the trace of a command under `set -x`. -/
def traceCommand (assigns : List (String × String)) (fields : List String) : ShellM Unit := do
  let sh ← get
  if sh.options.xtrace && sh.dialect == .bash then
    -- bash traces each assignment as it makes it
    if !fields.isEmpty then writeTo 2 (tracePrefix sh ++ " ".intercalate (fields.map traceWord) ++ "\n")
  else if sh.options.xtrace then
    let words := assigns.map (fun (k, v) => k ++ "=" ++ v) ++ fields
    writeTo 2 (((sh.var? "PS4").getD "+ ") ++ " ".intercalate words ++ "\n")

/-- How a process ended. -/
inductive Termination where
  | exited (code : Nat)
  | signaled (signal : Nat)
  deriving Repr, DecidableEq, Inhabited

/-- A shell back in its own process after a process it started has ended: everything is as
the shell left it, except what processes share, which is as the ended process left it: the
files, the buffers and streams, the numbers of the next stream and process, and the clock. -/
def restoreProcess (saved : Proc) (sh : Proc) : Proc :=
  { saved with tree := sh.tree, buffers := sh.buffers, streams := sh.streams, nextId := sh.nextId
               nextPid := sh.nextPid, clock := sh.clock }

/-- A process made afresh in a shell's place: the environment `env`, exported, and the process
number `pid`; files, descriptors, buffers and streams are the shell's. -/
def freshProcess (sh : Proc) (env : List (String × String)) (pid : Nat) : Proc :=
  { sh with vars := env, exported := env.map (·.1), readonly := [], params := [], pid
            parentPid := sh.pid, status := 0, options := {}, dialect := .posix, guarded := false
            line := 0, functions := [], substitutionStatus := none
            lastBackground := none, loopDepth := 0, funcDepth := 0, locals := [], traps := []
            subshellDepth := 0, pendingSignal := none, finished := [], dotDepth := 0, hashed := []
            optIndex := 1, optOffset := none, aliases := [], arrays := [], shopts := []
            syntaxLabel := "", sourceName := none, traceLevel := 0, integers := []
            localArrays := [] }

/-- The variables a shell sets as it starts: the field separators, the `getopts` index and the
number of its parent process always, the prompts and the search path unless the environment
gives them (the superuser's prompt is `# `; the search path is not exported), and the working
directory, exported. -/
def startVariables (sh : Proc) : Proc :=
  let keep (vars : List (String × String)) (k v : String) :=
    if vars.any (·.1 == k) then vars else Proc.withVar vars k v
  let vars := Proc.withVar (Proc.withVar sh.vars "IFS" " \t\n") "OPTIND" "1"
  let vars := Proc.withVar vars "PPID" (toString sh.parentPid)
  let vars := keep (keep (keep vars "PS1" "# ") "PS2" "> ") "PS4" "+ "
  let vars := keep vars "PATH" "/usr/local/sbin:/usr/local/bin:/usr/sbin:/usr/bin:/sbin:/bin"
  let vars := Proc.withVar vars "PWD" sh.cwdPath
  { sh with vars, exported := if sh.exported.contains "PWD" then sh.exported else sh.exported ++ ["PWD"] }

/-- The version of bash. -/
def bashVersion : String := "5.2.15(1)-release"

/-- The variables bash sets as it starts, called by `argv0`: its path, version and the kind of
machine, the user's numbers, the depth of shells (`SHLVL`, exported), the field separators, the
`getopts` state, the trace prompt and the working directory; and the `shopt` options it starts
with on. -/
def startBashVariables (sh : Proc) (argv0 : String) : Proc :=
  let keep (vars : List (String × String)) (k v : String) :=
    if vars.any (·.1 == k) then vars else Proc.withVar vars k v
  let level := (((sh.vars.find? (·.1 == "SHLVL")).map (·.2)).bind String.toNat?).getD 0 + 1
  let sets : List (String × String) := [
    ("BASH", if argv0.contains '/' then argv0 else "/usr/bin/" ++ argv0),
    ("BASHOPTS", ":".intercalate shoptsOn), ("BASH_VERSION", bashVersion), ("EUID", "0"),
    ("HOSTTYPE", "x86_64"), ("IFS", " \t\n"), ("MACHTYPE", "x86_64-pc-linux-gnu"), ("OPTERR", "1"),
    ("OPTIND", "1"), ("OSTYPE", "linux-gnu"), ("SHELLOPTS", "braceexpand:hashall:interactive-comments"),
    ("SHLVL", toString level), ("UID", "0"), ("PWD", sh.cwdPath), ("PPID", toString sh.parentPid)]
  let vars := sets.foldl (fun vs (k, v) => Proc.withVar vs k v) sh.vars
  let vars := keep (keep (keep vars "PS4" "+ ") "HOSTNAME" "localhost") "PATH"
    "/usr/local/sbin:/usr/local/bin:/usr/sbin:/usr/bin:/sbin:/bin"
  let exported := sh.exported ++ (["PWD", "SHLVL"].filter (!sh.exported.contains ·))
  { sh with vars, exported, shopts := shoptsOn
            arrays := [("BASH_VERSINFO", ShellArray.ofList ["5", "2", "15", "1", "release", "x86_64-pc-linux-gnu"])] }

/-- The environment of a program: the exported variables with the assignments before it. -/
def programEnvironment (sh : Proc) (assigns : List (String × String)) : List (String × String) :=
  assigns.foldl (fun env (k, v) => Proc.withVar env k v) sh.environment

/-- What a program finds for a command through the directories of its `PATH`, the way the C
library looks: the path and what it starts, or the reason. A file of no known format is run
by the shell. -/
def startFromSearch (t : FileTree) (cwd : List String) (searchPath name : String) (args : List String) :
    Except Errno Start :=
  if name.contains '/' then startAsShell .posix t cwd name name args
  else
    let rec go : List String → Bool → Except Errno Start
      | [], denied => .error (if denied then .permissionDenied else .noEntry)
      | p :: rest, denied =>
        match startAsShell .posix t cwd p name args with
        | .ok s => .ok s
        | .error .permissionDenied => go rest true
        | .error _ => go rest denied
    go (pathCandidates searchPath name) false

set_option maxHeartbeats 400000 in
mutual

/-- Expands one part of a word. -/
def expandPart : Nat → WordPart → ShellM (List Piece)
  | 0, _ => throw .exhausted
  | _ + 1, .text s q => pure [.text s false q]
  | fuel + 1, .substitution src line q => do
    let text ← substitute fuel src line
    pure [.text text (!q) q]
  | fuel + 1, .arithmetic src q => do
    let v ← arithmetic fuel src
    pure [.text (toString v) (!q) q]
  | fuel + 1, .param name op q => expandParam fuel name op q

/-- Expands a parameter with its operator. -/
def expandParam : Nat → String → ParamOp → Bool → ShellM (List Piece)
  | 0, _, _, _ => throw .exhausted
  | fuel + 1, name, op, q => do
    let sh ← get
    if sh.dialect == .bash then expandBashParam fuel name op q else
    let value := sh.lookup name
    let plain (v : String) : List Piece := [.text v (!q) q]
    let unsetCheck : ShellM Unit :=
      if value.isNone && sh.options.nounset && name != "@" && name != "*" then
        shellFail (name ++ ": parameter not set")
      else pure ()
    match op with
    | .malformed text => expansionFail (badSubstitutionOf sh text)
    | .value =>
      if name == "@" || (name == "*" && !q) then
        pure ((sh.params.map fun p => Piece.text p (!q) q).intersperse .fieldBreak)
      else if name == "*" then pure [.text ((starSeparator sh).intercalate sh.params) false true]
      else do
        unsetCheck
        pure (plain (value.getD ""))
    | .length => do
      unsetCheck
      pure (plain (toString (value.getD "").length))
    | .useDefault colon w =>
      if isUnset value colon then expandOperand fuel w q else pure (plain (value.getD ""))
    | .assignDefault colon w =>
      if isUnset value colon then do
        let v := joinPieces (← expandOperand fuel w q)
        if isSpecialName name then shellFail (name ++ ": bad variable name")
        assignChecked "" name v
        pure (plain v)
      else pure (plain (value.getD ""))
    | .useAlternative colon w =>
      if isUnset value colon then pure [.text "" false q] else expandOperand fuel w q
    | .failIfUnset colon w =>
      if isUnset value colon then do
        let m := joinPieces (← expandOperand fuel w true)
        shellFail (name ++ ": " ++ (if m.isEmpty then (if colon then "parameter not set or null" else "parameter not set") else m))
      else pure (plain (value.getD ""))
    | .removeSuffix longest pat => do
      unsetCheck
      let p ← patternOfWord fuel pat
      pure (plain (removeSuffix p longest (value.getD "")))
    | .removePrefix longest pat => do
      unsetCheck
      let p ← patternOfWord fuel pat
      pure (plain (removePrefix p longest (value.getD "")))
    | _ => pure (plain (value.getD ""))

/-- What a parameter of bash holds. `@` and `*` hold the positional parameters; `name[@]`
and `name[*]` the elements of an array; `name[subscript]` one element, the subscript evaluated
as arithmetic unless the array is associative; `!prefix*` the names of the variables that
start with the prefix; `!name[@]` the subscripts of an array; and `!name` the parameter that
the value of `name` names. -/
def resolveParam : Nat → String → ShellM ParamValue
  | 0, _ => throw .exhausted
  | fuel + 1, name => do
    let sh ← get
    match name.toList with
    | '!' :: rest =>
      let r := String.ofList rest
      if (r.endsWith "*" || r.endsWith "@") && !r.contains '[' && r.length > 1 then
        let pre := (r.dropEnd 1).toString
        let names := (sh.vars.map (·.1) ++ sh.arrays.map (·.1)).filter (·.startsWith pre)
        pure (.many (names.mergeSort fun a b => decide (a ≤ b)).eraseDups (r.endsWith "*"))
      else if r.endsWith "[@]" || r.endsWith "[*]" then
        let base := (r.dropEnd 3).toString
        let keys := match sh.array? base with
          | some arr => arr.items.map (·.1)
          | none => if (sh.var? base).isSome then ["0"] else []
        pure (.many keys (r.endsWith "[*]"))
      else
        match ← resolveParam fuel r with
        | .one (some target) =>
          if isName target || (!target.isEmpty && target.all Char.isDigit) || isSpecialName target
              || (splitSubscript target).isSome then resolveParam fuel target
          else abandonLine (target ++ ": invalid variable name")
        | _ => abandonLine (r ++ ": invalid indirect expansion")
    | _ =>
      if name == "@" then pure (.many sh.params false)
      else if name == "*" then pure (.many sh.params true)
      else
        match splitSubscript name with
        | some (base, sub) =>
          if sub == "@" || sub == "*" then
            let items := match sh.array? base with
              | some arr => arr.values
              | none => (sh.var? base).toList
            pure (.many items (sub == "*"))
          else do
            let key ← subscriptKey fuel base sub
            match sh.array? base with
            | some arr => pure (.one (arr.get? key))
            | none => pure (.one (if key == "0" then sh.var? base else none))
        | none => pure (.one (sh.lookup name))

/-- The subscript of an element of the array `base`: the text of `sub` expanded for an
associative array, else its arithmetic value, a negative one counting back from the end. -/
def subscriptKey : Nat → String → String → ShellM String
  | 0, _, _ => throw .exhausted
  | fuel + 1, base, sub => do
    let sh ← get
    match sh.array? base with
    | some arr =>
      if arr.associative then
        match wordParts sh.dialect sub sh.line with
        | some w => expandText fuel w
        | none => abandonLine (badSubstitutionOf sh sub)
      else do
        let i ← arithmetic fuel sub
        if i < 0 then
          let j := (arr.nextIndex : Int) + i
          if j < 0 then abandonLine (base ++ "[" ++ sub ++ "]: bad array subscript") else pure (toString j)
        else pure (toString i)
    | none => do
      let i ← arithmetic fuel sub
      pure (toString i)

/-- Expands a parameter of bash with its operator. An operator that changes text changes each
value of a parameter that holds several. -/
def expandBashParam : Nat → String → ParamOp → Bool → ShellM (List Piece)
  | 0, _, _, _ => throw .exhausted
  | fuel + 1, name, op, q => do
    let pv ← resolveParam fuel name
    let sh ← get
    let emit (pv : ParamValue) : List Piece := match pv with
      | .one v => [.text (v.getD "") (!q) q]
      | .many items joined =>
        if joined && q then [.text ((starSeparator sh).intercalate items) false true]
        else (items.map fun p => Piece.text p (!q) q).intersperse .fieldBreak
    let shown := if !name.isEmpty && name.all Char.isDigit then "$" ++ name else name
    let unsetCheck : ShellM Unit := match pv with
      | .one none => if sh.options.nounset then bashExit (shown ++ ": unbound variable") else pure ()
      | _ => pure ()
    match op with
    | .malformed text => expansionFail (badSubstitutionOf sh text)
    | .value => do
      unsetCheck
      pure (emit pv)
    | .length => do
      unsetCheck
      match pv with
      | .one v => pure [.text (toString (v.getD "").length) (!q) q]
      | .many items _ => pure [.text (toString items.length) (!q) q]
    | .useDefault colon w =>
      if pv.isUnset colon then expandOperand fuel w q else pure (emit pv)
    | .assignDefault colon w =>
      if pv.isUnset colon then do
        let v := joinPieces (← expandOperand fuel w q)
        if isSpecialName name then abandonLine (shown ++ ": cannot assign in this way")
        match splitSubscript name with
        | some (base, sub) =>
          let key ← subscriptKey fuel base sub
          assignElement base key v
        | none => assignChecked "" name v
        pure [.text v (!q) q]
      else pure (emit pv)
    | .useAlternative colon w =>
      if pv.isUnset colon then pure [.text "" false q] else expandOperand fuel w q
    | .failIfUnset colon w =>
      if pv.isUnset colon then do
        let m := joinPieces (← expandOperand fuel w true)
        let shown := if !name.isEmpty && name.all Char.isDigit then name else shown
        bashExit (shown ++ ": " ++ (if m.isEmpty then (if colon then "parameter null or not set" else "parameter not set") else m))
      else pure (emit pv)
    | .removeSuffix longest pat => do
      unsetCheck
      let p ← patternOfWord fuel pat
      pure (emit (pv.map (removeSuffix p longest)))
    | .removePrefix longest pat => do
      unsetCheck
      let p ← patternOfWord fuel pat
      pure (emit (pv.map (removePrefix p longest)))
    | .substring offset length => do
      unsetCheck
      let o ← arithmetic fuel offset
      let l ← match length with
        | some t => do pure (some (← arithmetic fuel t))
        | none => pure none
      match pv with
      | .one v =>
        match substringOf (v.getD "").toList o l with
        | some cs => pure [.text (String.ofList cs) (!q) q]
        | none => abandonLine ((length.getD "") ++ ": substring expression < 0")
      | .many items joined =>
        let positional := name == "@" || name == "*"
        let all := if positional then sh.name :: items else items
        let o := if positional && o < 0 then o else o
        match substringOf all o l with
        | some xs => pure (emit (.many xs joined))
        | none => abandonLine ((length.getD "") ++ ": substring expression < 0")
    | .replace mode pat replacement => do
      unsetCheck
      let p ← patternOfWord fuel pat
      let field ← match wordParts sh.dialect replacement sh.line with
        | some w => do pure (piecesField (← expandPieces fuel (expandTilde (sh.var? "HOME") w)))
        | none => abandonLine (badSubstitutionOf sh replacement)
      pure (emit (pv.map (replaceText mode p pat.isEmpty (patternReplacement field))))
    | .changeCase upper all pat => do
      unsetCheck
      let p ← if pat.isEmpty then pure none else do pure (some (← patternOfWord fuel pat))
      pure (emit (pv.map (changeCaseText upper all p)))
    | .transform t => do
      if !"QEPULuKAa".toList.contains t then abandonLine (badSubstitutionOf sh ("$\x7b" ++ name ++ "@" ++ String.singleton t ++ "\x7d"))
      unsetCheck
      let attrs : String :=
        (match sh.array? name with
          | some arr => if arr.associative then "A" else "a"
          | none => "") ++ (if sh.integers.contains name then "i" else "") ++
        (if sh.readonly.contains name then "r" else "") ++ (if sh.exported.contains name then "x" else "")
      let apply (v : String) : String :=
        if t == 'Q' || t == 'K' then reusableQuote v
        else if t == 'E' then ((ansiQuoted (v.length + 2) (v.toList ++ ['\x27']) "").map (·.1)).getD v
        else if t == 'U' then v.toUpper
        else if t == 'L' then v.toLower
        else if t == 'u' then changeCaseText true false none v
        else if t == 'A' then
          (if attrs.isEmpty then "" else "declare -" ++ attrs ++ " ") ++ name ++ "=" ++ reusableQuote v
        else if t == 'a' then attrs
        else v
      match pv with
      | .one none => pure (if t == 'a' && !attrs.isEmpty then [.text attrs (!q) q] else [.text "" false q])
      | _ => pure (emit (pv.map apply))

/-- Expands the word of a parameter operator, quoted when the expansion is. -/
def expandOperand : Nat → String → Bool → ShellM (List Piece)
  | 0, _, _ => throw .exhausted
  | fuel + 1, w, q => do
    let sh ← get
    match (if q then quotedParts sh.dialect w sh.line else wordParts sh.dialect w sh.line) with
    | some parts => expandPieces fuel parts
    | none => expansionFail (badSubstitutionOf sh w)

/-- Expands a pattern word into a pattern; quoted characters stand for themselves. -/
def patternOfWord : Nat → String → ShellM (List PatternElem)
  | 0, _ => throw .exhausted
  | fuel + 1, pat => do
    let sh ← get
    match wordParts sh.dialect pat sh.line with
    | some parts => do
      let cs := piecesField (← expandPieces fuel parts)
      pure (patternOf (cs.length + 1) cs)
    | none => expansionFail (badSubstitutionOf sh pat)

/-- Sets a variable that arithmetic assigned: in bash an element when the name has a
subscript, and a variable that is read only is an error that drops the rest of the line. -/
def assignArithmetic : Nat → String → String → ShellM Unit
  | 0, _, _ => throw .exhausted
  | fuel + 1, name, value => do
    let sh ← get
    if sh.dialect == .bash then
      if sh.readonly.contains name then abandonLine (name ++ ": readonly variable")
      match splitSubscript name with
      | some (base, sub) =>
        let key ← subscriptKey fuel base sub
        assignElement base key value
      | none => assign name value
    else assignChecked "" name value

/-- Evaluates arithmetic text after expanding it as if quoted: its value, with the variables it
assigns set, or the message of its error. -/
def arithResult : Nat → String → ShellM (Except String Int)
  | 0, _ => throw .exhausted
  | fuel + 1, src => do
    let sh ← get
    let bash := sh.dialect == .bash
    let text ← match quotedParts sh.dialect src sh.line with
      | some parts => do pure (joinPieces (← expandPieces fuel parts))
      | none => expansionFail (badSubstitutionOf sh src)
    let sh ← get
    match evalArith bash text (if bash then bashLookup sh else sh.lookup) with
    | .ok (v, assigned) =>
      for (k, x) in assigned do assignArithmetic fuel k (toString x)
      pure (.ok v)
    | .error e => pure (.error (e.message text))

/-- Evaluates an arithmetic expansion: its text is expanded as if quoted, then evaluated;
the variables it assigns are set. -/
def arithmetic : Nat → String → ShellM Int
  | 0, _ => throw .exhausted
  | fuel + 1, src => do
    match ← arithResult fuel src with
    | .ok v => pure v
    | .error m => expansionFail m

/-- Expands the parts of a word in order. -/
def expandPieces : Nat → Word → ShellM (List Piece)
  | 0, _ => throw .exhausted
  | _ + 1, [] => pure []
  | fuel + 1, p :: rest => do
    let a ← expandPart fuel p
    let b ← expandPieces fuel rest
    pure (a ++ b)

/-- Expands words into fields: split at `IFS`, then matched against file names. -/
def expandWords : Nat → List Word → ShellM (List String)
  | 0, _ => throw .exhausted
  | _ + 1, [] => pure []
  | fuel + 1, w :: ws => do
    let sh ← get
    let pieces ← expandPieces fuel (expandTilde (sh.var? "HOME") w)
    let sh ← get
    let fields := splitFields sh.ifs pieces
    let names := if sh.options.noglob then fields.map Field.text
      else fields.flatMap (expandNames sh.tree sh.cwd)
    let rest ← expandWords fuel ws
    pure (names ++ rest)

/-- Expands a word into one text, without splitting or file names. -/
def expandText : Nat → Word → ShellM String
  | 0, _ => throw .exhausted
  | fuel + 1, w => do
    let home := (← get).var? "HOME"
    pure (joinPieces (← expandPieces fuel (expandTilde home w)))

/-- Sets a variable by an assignment statement. In bash one that is read only is an error that
drops the rest of the line. -/
def assignStatement (name value : String) : ShellM Unit := do
  let sh ← get
  if sh.dialect == .bash && sh.readonly.contains name then abandonLine (name ++ ": readonly variable")
  else assignChecked "" name value

/-- Expands an assignment. A plain one gives its name and value; an element of an array, or a
whole array, is set at once. `+=` adds to the old value, or to the end of the array. -/
def expandAssignment : Nat → Assignment → ShellM (Option (String × String))
  | 0, _ => throw .exhausted
  | fuel + 1, a => do
    match a.index, a.value with
    | none, .scalar w => do
      let v ← expandText fuel w
      let sh ← get
      if sh.dialect == .bash then
        traceLine (a.name ++ (if a.append then "+=" else "=") ++ (if v.isEmpty then "" else traceWord v))
      let old := (sh.var? a.name).getD ""
      if a.append && sh.integers.contains a.name then
        pure (some (a.name, "(" ++ (if old.isEmpty then "0" else old) ++ ")+(" ++ v ++ ")"))
      else pure (some (a.name, if a.append then old ++ v else v))
    | some sub, .scalar w => do
      let v ← expandText fuel w
      traceLine (a.name ++ "[" ++ sub ++ "]" ++ (if a.append then "+=" else "=") ++ (if v.isEmpty then "" else traceWord v))
      if (← get).readonly.contains a.name then abandonLine (a.name ++ ": readonly variable")
      let key ← subscriptKey fuel a.name sub
      let old := (((← get).array? a.name).bind (·.get? key)).getD ""
      assignElement a.name key (if a.append then old ++ v else v)
      pure none
    | _, .array items => do
      if (← get).readonly.contains a.name then abandonLine (a.name ++ ": readonly variable")
      let sh ← get
      let start : ShellArray := match sh.array? a.name with
        | some arr => if a.append then arr else { associative := arr.associative }
        | none =>
          if a.append then ShellArray.ofList (sh.var? a.name).toList else {}
      let arr ← arrayElements fuel a.name items start
      traceLine (a.name ++ (if a.append then "+=(" else "=(") ++ " ".intercalate (arr.values.map traceWord) ++ ")")
      assignArray a.name arr
      pure none

/-- Puts the items of an array assignment into an array: one with a subscript at that
subscript, and the fields of one without at the subscripts after the last. -/
def arrayElements : Nat → String → List (Option String × Word) → ShellArray → ShellM ShellArray
  | 0, _, _, _ => throw .exhausted
  | _ + 1, _, [], arr => pure arr
  | fuel + 1, name, (index, w) :: rest, arr => do
    match index with
    | some sub =>
      let v ← expandText fuel w
      let key ← if arr.associative then
          match wordParts (← get).dialect sub (← get).line with
          | some kw => expandText fuel kw
          | none => pure sub
        else do pure (toString (← arithmetic fuel sub))
      arrayElements fuel name rest (arr.set key v)
    | none =>
      let values ← expandWords fuel [w]
      let arr := values.foldl (fun (acc : ShellArray) v => acc.set (toString acc.nextIndex) v) arr
      arrayElements fuel name rest arr

/-- Expands the assignments of a command in order, each seeing those before it: made for good
when `permanent`, else set only while the later ones expand. The plain ones, with their
values. -/
def expandAssignments : Nat → List Assignment → Bool → ShellM (List (String × String))
  | 0, _, _ => throw .exhausted
  | _ + 1, [], _ => pure []
  | fuel + 1, a :: rest, permanent => do
    match ← expandAssignment fuel a with
    | some (n, v) =>
      if permanent then
        assignStatement n v
        let more ← expandAssignments fuel rest permanent
        pure ((n, v) :: more)
      else
        let saved ← pushTemporary [(n, v)]
        let more ← tryCatch (expandAssignments fuel rest permanent) fun stop => do
          popTemporary saved
          throw stop
        popTemporary saved
        pure ((n, v) :: more)
    | none => expandAssignments fuel rest permanent

/-- Runs a command substitution as a subshell: its output without the line breaks at its
end. -/
def substitute : Nat → String → Nat → ShellM String
  | 0, _, _ => throw .exhausted
  | fuel + 1, src, line => do
    let id ← newBuffer
    let code ← inSubshell (do
      setFd 1 (some (.writer (.buffer id)))
      modify fun sh => { sh with traceLevel := sh.traceLevel + 1 }
      runScriptText fuel src line)
    let text ← takeBuffer id
    modify fun sh => { sh with substitutionStatus := some code }
    pure (stripTrailingNewlines text)

/-- Delivers a signal sent to the shell while a subshell or a command ran: a trap's action
runs, keeping the status; an ignored signal does nothing; any other ends the shell. -/
def deliverPending : Nat → ShellM Unit
  | 0 => throw .exhausted
  | fuel + 1 => do
    let sh ← get
    if sh.subshellDepth == 0 then
      match sh.pendingSignal with
      | none => pure ()
      | some s =>
        set { sh with pendingSignal := none }
        match trapFor sh s with
        | some "" => pure ()
        | some action =>
          let status := sh.status
          runScriptText fuel action 1
          setStatus status
        | none =>
          if signalAction s == .terminate then throw (.killed s)
          else if signalAction s == .stop then throw .exhausted

/-- What follows a command that may have failed: bash runs the `ERR` trap for a failure
outside a condition, and `set -e` ends the shell then. -/
def afterCommand : Nat → ShellM Unit
  | 0 => throw .exhausted
  | fuel + 1 => do
    let sh ← get
    if sh.dialect == .bash && sh.status != 0 && !sh.guarded then
      match sh.traps.find? (·.1 == "ERR") with
      | some (_, action) =>
        if !action.isEmpty then
          let status := sh.status
          guarded (runScriptText fuel action sh.line)
          setStatus status
      | none => pure ()
    checkErrexit

/-- Runs a command, then delivers what signals came meanwhile. -/
def run : Nat → Command → ShellM Unit
  | 0, _ => throw .exhausted
  | fuel + 1, c => do
    -- under `set -n` commands are only read, also the rest of the line that set it
    if !(← get).options.noexec then
      runNode fuel c
      deliverPending fuel

/-- Runs a command of any kind. -/
def runNode : Nat → Command → ShellM Unit
  | 0, _ => throw .exhausted
  | fuel + 1, .simple line assigns words redirects => runSimple fuel line assigns words redirects
  | fuel + 1, .pipeline negated stages => do
    if negated then
      guarded (runStages fuel stages none true [])
      setStatus (if (← get).status == 0 then 1 else 0)
    else
      runStages fuel stages none true []
      afterCommand fuel
  | fuel + 1, .andThen a b => do
    guarded (run fuel a)
    if (← get).status == 0 then run fuel b
  | fuel + 1, .orElse a b => do
    guarded (run fuel a)
    if (← get).status != 0 then run fuel b
  | fuel + 1, .sequence items => runAll fuel items
  | fuel + 1, .group body => run fuel body
  | fuel + 1, .subshell body => do
    let _ ← inSubshell (run fuel body)
    afterCommand fuel
  | fuel + 1, .background body => do
    let before ← get
    -- a job runs beside the shell: the time limit is the shell's, and a job that does not end
    -- ends only when someone waits for it
    set { before with deadline := none }
    let code ← inSubshell (do
      let id ← newStream { text := "", seekable := true, file := none }
      setFd 0 (some (.reader id))
      let inside ← get
      tryCatch (run fuel body) fun
        | .exhausted => modify fun sh => { restoreProcess inside sh with clock := foreverNanos }
        | stop => throw stop)
    let sh ← get
    set { sh with lastBackground := some sh.nextPid, nextPid := sh.nextPid + 1
                  finished := (sh.nextPid, code) :: sh.finished, status := 0
                  clock := before.clock, deadline := before.deadline
                  jobsEnd := max sh.jobsEnd sh.clock }
  | fuel + 1, .ifThen cond body other => do
    guarded (run fuel cond)
    if (← get).status == 0 then run fuel body
    else
      match other with
      | some o => run fuel o
      | none => setStatus 0
  | fuel + 1, .loop untilDone cond body => do
    modify fun sh => { sh with loopDepth := sh.loopDepth + 1 }
    tryCatch (runLoop fuel untilDone cond body 0) fun stop => do
      modify fun sh => { sh with loopDepth := sh.loopDepth - 1 }
      throw stop
    modify fun sh => { sh with loopDepth := sh.loopDepth - 1 }
  | fuel + 1, .forEach name words body => do
    let items ← match words with
      | some ws => expandWords fuel ws
      | none => pure (← get).params
    modify fun sh => { sh with loopDepth := sh.loopDepth + 1 }
    let header := if (← get).dialect == .bash
      then "for " ++ name ++ " in " ++ " ".intercalate (items.map traceWord) else ""
    tryCatch (runFor fuel name items body 0 header) fun stop => do
      modify fun sh => { sh with loopDepth := sh.loopDepth - 1 }
      throw stop
    modify fun sh => { sh with loopDepth := sh.loopDepth - 1 }
  | fuel + 1, .caseOf subject arms => do
    let s ← expandText fuel subject
    if (← get).dialect == .bash then traceLine ("case " ++ traceWord s ++ " in")
    runCase fuel s arms
  | _ + 1, .function name line body => do
    modify fun sh => { sh with functions := (name, { body, line }) :: sh.functions.filter (·.1 != name) }
    setStatus 0
  | fuel + 1, .redirected body redirects => do
    let _ ← withRedirects fuel redirects false (run fuel body)
  | fuel + 1, .arith line text => do
    modify fun sh => { sh with line }
    traceLine ("(( " ++ text ++ " ))")
    match ← arithResult fuel text with
    | .ok v => setStatus (if v == 0 then 1 else 0)
    | .error m => do
      complain ("((: " ++ m)
      setStatus 1
    afterCommand fuel
  | fuel + 1, .cond line e => do
    modify fun sh => { sh with line }
    match ← condition fuel e with
    | .ok b => setStatus (if b then 0 else 1)
    | .error code => setStatus code
    afterCommand fuel
  | fuel + 1, .forArith line init test step body => do
    modify fun sh => { sh with line }
    let blank (t : String) : Bool := t.all fun c => c == ' ' || c == '\t' || c == '\n'
    traceLine ("(( " ++ init ++ " ))")
    let started ← if blank init then pure (.ok 0) else arithResult fuel init
    match started with
    | .error m => do
      complain ("((: " ++ m)
      setStatus 1
    | .ok _ =>
      modify fun sh => { sh with loopDepth := sh.loopDepth + 1 }
      tryCatch (runArithLoop fuel test step body 0) fun stop => do
        modify fun sh => { sh with loopDepth := sh.loopDepth - 1 }
        throw stop
      modify fun sh => { sh with loopDepth := sh.loopDepth - 1 }

/-- Runs the rounds of an arithmetic `for` loop: while the test is not zero (or is empty), the
body, then the step; `last` is the status of the last round's body. -/
def runArithLoop : Nat → String → String → Command → Nat → ShellM Unit
  | 0, _, _, _, _ => throw .exhausted
  | fuel + 1, test, step, body, last => do
    let blank (t : String) : Bool := t.all fun c => c == ' ' || c == '\t' || c == '\n'
    traceLine ("(( " ++ test ++ " ))")
    let go ← if blank test then pure (.ok 1) else arithResult fuel test
    match go with
    | .error m => do
      complain ("((: " ++ m)
      setStatus 1
    | .ok 0 => setStatus last
    | .ok _ =>
      match ← loopBody (run fuel body) with
      | .stopLoop => setStatus (← get).status
      | _ =>
        let st := (← get).status
        traceLine ("(( " ++ step ++ " ))")
        let stepped ← if blank step then pure (.ok 0) else arithResult fuel step
        match stepped with
        | .error m => do
          complain ("((: " ++ m)
          setStatus 1
        | .ok _ => runArithLoop fuel test step body st

/-- Expands a word into a pattern; quoted characters stand for themselves. -/
def patternOfParts : Nat → Word → ShellM (List PatternElem)
  | 0, _ => throw .exhausted
  | fuel + 1, w => do
    let home := (← get).var? "HOME"
    let cs := piecesField (← expandPieces fuel (expandTilde home w))
    pure (patternOf (cs.length + 1) cs)

/-- Evaluates a conditional expression of bash: whether it holds, or the status of an error,
which has been reported. Words are expanded without splitting or file names; the right side
of `==` and `!=` is a pattern, that of `=~` an extended regular expression whose groups are
left in `BASH_REMATCH`; the numeric comparisons read their sides as arithmetic. -/
def condition : Nat → CondExpr → ShellM (Except Nat Bool)
  | 0, _ => throw .exhausted
  | fuel + 1, .word w => do
    let s ← expandText fuel w
    traceLine ("[[ " ++ traceWord s ++ " ]]")
    pure (.ok !s.isEmpty)
  | fuel + 1, .unary op w => do
    let s ← expandText fuel w
    traceLine ("[[ " ++ op ++ " " ++ traceWord s ++ " ]]")
    let sh ← get
    if op == "-v" then pure (.ok (isSetName sh s))
    else if op == "-o" then
      pure (.ok (match sh.options.setName s true with
        | some o => o == sh.options
        | none => false))
    else if op == "-a" then pure (.ok (unaryTest (shellLookup sh) 'e' s))
    else if op == "-t" then pure (.ok false)
    else
      match op.toList with
      | ['-', c] => pure (.ok (unaryTest (shellLookup sh) c s))
      | _ => pure (.ok false)
  | fuel + 1, .binary op l r => do
    let a ← expandText fuel l
    if (← get).options.xtrace then
      let shownRight := joinPieces (← expandPieces fuel r)
      traceLine ("[[ " ++ traceWord a ++ " " ++ op ++ " " ++ traceWord shownRight ++ " ]]")
    if op == "==" || op == "=" || op == "!=" then do
      let p ← patternOfParts fuel r
      let m := PatternElem.matchAll p a.toList
      pure (.ok (if op == "!=" then !m else m))
    else if op == "=~" then do
      let home := (← get).var? "HOME"
      let field := piecesField (← expandPieces fuel (expandTilde home r))
      match Regex.parseWith { extended := true, strict := false, lookahead := false } (regexSource field) with
      | .error _ => pure (.error 2)
      | .ok re =>
        match re.search a with
        | some (start, stop, caps) =>
          let cs := a.toList
          let groups := (List.range re.groupCount).map fun i =>
            match Regex.captured caps (i + 1) with
            | some (x, y) => String.ofList ((cs.drop x).take (y - x))
            | none => ""
          assignArray "BASH_REMATCH" (ShellArray.ofList (String.ofList ((cs.drop start).take (stop - start)) :: groups))
          pure (.ok true)
        | none =>
          assignArray "BASH_REMATCH" {}
          pure (.ok false)
    else do
      let b ← expandText fuel r
      if ["-eq", "-ne", "-lt", "-le", "-gt", "-ge"].contains op then
        let sh ← get
        let value (t : String) : Except String Int :=
          match evalArith true t (bashLookup sh) with
          | .ok (v, _) => .ok v
          | .error e => .error (e.message t)
        match value a, value b with
        | .ok x, .ok y =>
          pure (.ok (if op == "-eq" then x == y else if op == "-ne" then x != y
            else if op == "-lt" then x < y else if op == "-le" then x ≤ y
            else if op == "-gt" then x > y else x ≥ y))
        | .error m, _ | _, .error m => do
          complain ("[[: " ++ m)
          pure (.error 1)
      else
        match binaryTest op a b with
        | .ok v => pure (.ok v)
        | .error _ => pure (.ok false)
  | fuel + 1, .negate e => do
    match ← condition fuel e with
    | .ok b => pure (.ok !b)
    | err => pure err
  | fuel + 1, .both a b => do
    match ← condition fuel a with
    | .ok true => condition fuel b
    | r => pure r
  | fuel + 1, .either a b => do
    match ← condition fuel a with
    | .ok false => condition fuel b
    | r => pure r

/-- Runs the stages of a pipeline, each stage's output the next one's input `input`. A single
command runs in the shell itself; the stages of a longer pipeline run as subshells. `codes`
holds the statuses of the stages before (last first): bash keeps them all in `PIPESTATUS`,
and under `set -o pipefail` the status is that of the last stage that failed. -/
def runStages : Nat → List Command → Option Nat → Bool → List Nat → ShellM Unit
  | 0, _, _, _, _ => throw .exhausted
  | _ + 1, [], _, _, _ => pure ()
  | fuel + 1, [last], input, first, codes =>
    if first then run fuel last
    else do
      let _ ← inSubshell (do
        match input with
        | some id => setFd 0 (some (.reader id))
        | none => pure ()
        run fuel last)
      let sh ← get
      let all := (sh.status :: codes).reverse
      if sh.dialect == .bash then
        assignArray "PIPESTATUS" (ShellArray.ofList (all.map toString))
        if sh.options.pipefail then
          setStatus (((all.filter (· != 0)).getLast?).getD 0)
  | fuel + 1, stage :: rest, input, _, codes => do
    let out ← newBuffer
    let start := (← get).clock
    let code ← inSubshell (do
      match input with
      | some id => setFd 0 (some (.reader id))
      | none => pure ()
      setFd 1 (some (.writer (.buffer out)))
      run fuel stage)
    -- the stages run side by side: the pipeline ends when the last of them does
    let ended := (← get).clock
    modify fun sh => { sh with clock := start }
    let text ← takeBuffer out
    let next ← newStream { text, seekable := false, file := none }
    runStages fuel rest (some next) false (code :: codes)
    modify fun sh => { sh with clock := max sh.clock ended }

/-- Runs commands in order. -/
def runAll : Nat → List Command → ShellM Unit
  | 0, _ => throw .exhausted
  | _ + 1, [] => pure ()
  | fuel + 1, c :: cs => do
    run fuel c
    runAll fuel cs

/-- Runs a `while` or `until` loop; `last` is the status of the last round's body. -/
def runLoop : Nat → Bool → Command → Command → Nat → ShellM Unit
  | 0, _, _, _, _ => throw .exhausted
  | fuel + 1, untilDone, cond, body, last => do
    match ← loopBody (guarded (run fuel cond)) with
    | .stopLoop => setStatus last
    | .nextRound => runLoop fuel untilDone cond body last
    | .normal =>
      if ((← get).status == 0) == untilDone then setStatus last
      else
        match ← loopBody (run fuel body) with
        | .stopLoop => setStatus (← get).status
        | .nextRound => runLoop fuel untilDone cond body (← get).status
        | .normal => runLoop fuel untilDone cond body (← get).status

/-- Runs a `for` loop over the items left; bash traces `header` before each round. -/
def runFor : Nat → String → List String → Command → Nat → String → ShellM Unit
  | 0, _, _, _, _, _ => throw .exhausted
  | _ + 1, _, [], _, last, _ => setStatus last
  | fuel + 1, name, item :: rest, body, _, header => do
    if !header.isEmpty then traceLine header
    assignChecked "" name item
    match ← loopBody (run fuel body) with
    | .stopLoop => setStatus (← get).status
    | _ => runFor fuel name rest body (← get).status header

/-- Runs the first arm of a `case` with a pattern that matches; its ending may go on to run
the next arm's body, or to test the arms after it. -/
def runCase : Nat → String → List (List Word × Command × ArmEnd) → ShellM Unit
  | 0, _, _ => throw .exhausted
  | _ + 1, _, [] => setStatus 0
  | fuel + 1, s, (patterns, body, ending) :: rest => do
    if ← anyPatternMatches fuel s patterns then
      setStatus 0
      run fuel body
      match ending with
      | .stop => pure ()
      | .fallThrough => runArmsFrom fuel s rest
      | .testNext => runCaseAfter fuel s rest
    else runCase fuel s rest

/-- Goes on testing the arms of a `case` after one that ended with `;;&`, keeping the status
when none matches. -/
def runCaseAfter : Nat → String → List (List Word × Command × ArmEnd) → ShellM Unit
  | 0, _, _ => throw .exhausted
  | _ + 1, _, [] => pure ()
  | fuel + 1, s, (patterns, body, ending) :: rest => do
    if ← anyPatternMatches fuel s patterns then
      run fuel body
      match ending with
      | .stop => pure ()
      | .fallThrough => runArmsFrom fuel s rest
      | .testNext => runCaseAfter fuel s rest
    else runCaseAfter fuel s rest

/-- Runs the body of the next arm of a `case` without testing it, after one that ended with
`;&`. -/
def runArmsFrom : Nat → String → List (List Word × Command × ArmEnd) → ShellM Unit
  | 0, _, _ => throw .exhausted
  | _ + 1, _, [] => pure ()
  | fuel + 1, s, (_, body, ending) :: rest => do
    run fuel body
    match ending with
    | .stop => pure ()
    | .fallThrough => runArmsFrom fuel s rest
    | .testNext => runCaseAfter fuel s rest

/-- Whether one of the patterns matches the text. -/
def anyPatternMatches : Nat → String → List Word → ShellM Bool
  | 0, _, _ => throw .exhausted
  | _ + 1, _, [] => pure false
  | fuel + 1, s, w :: ws => do
    let cs := piecesField (← expandPieces fuel w)
    if PatternElem.matchAll (patternOf (cs.length + 1) cs) s.toList then pure true
    else anyPatternMatches fuel s ws

/-- Runs a step with redirections, undoing them afterwards unless `keep`. When one fails the
step does not run and the status is 2; the result tells whether they all opened. -/
def withRedirects : Nat → List Redirect → Bool → ShellM Unit → ShellM Bool
  | 0, _, _, _ => throw .exhausted
  | fuel + 1, redirects, keep, body => do
    let saved := (← get).fds
    let restore : ShellM Unit := if keep then pure () else modify fun sh => { sh with fds := saved }
    let opened ← tryCatch (applyRedirects fuel redirects) fun stop => do
      restore
      throw stop
    if !opened then
      restore
      setStatus (if (← get).dialect == .bash then 1 else 2)
      pure false
    else
      tryCatch body fun stop => do
        restore
        throw stop
      restore
      pure true

/-- Opens redirections in order; false when one failed, after saying why. A here-document
whose expansion fails is a redirection that failed; bash expands it apart from the shell, so
the variables it assigns do not last. -/
def applyRedirects : Nat → List Redirect → ShellM Bool
  | 0, _ => throw .exhausted
  | _ + 1, [] => pure true
  | fuel + 1, r :: rest => do
    if r.op == .hereDoc then
      let before ← get
      let expanded ← tryCatch (do pure (some (← expandText fuel r.target))) fun stop =>
        match stop with
        | .error | .abandon => pure none
        | other => throw other
      if before.dialect == .bash then
        modify fun sh => { sh with vars := before.vars, arrays := before.arrays }
      match expanded with
      | some target => if ← openRedirect r target then applyRedirects fuel rest else pure false
      | none => pure false
    else
      let target ← expandText fuel r.target
      if ← openRedirect r target then applyRedirects fuel rest else pure false

/-- Opens one redirection to `target`; false when it failed, after saying why. -/
def openRedirect : Redirect → String → ShellM Bool
  | r, target => do
    let sh ← get
    let point (f : Option Fd) : ShellM Bool := do
      setFd r.fd f
      pure true
    let fail (msg : String) : ShellM Bool := do
      complain msg
      pure false
    let special : Option Nat :=
      if target == "/dev/stdin" then some 0 else if target == "/dev/stdout" then some 1
      else if target == "/dev/stderr" then some 2 else none
    let bash := sh.dialect == .bash
    let createFail (e : Errno) : ShellM Bool :=
      fail (if bash then target ++ ": " ++ errnoText e else "cannot create " ++ target ++ ": " ++ createReason e)
    let openFail (e : Errno) : ShellM Bool :=
      fail (if bash then target ++ ": " ++ errnoText e else "cannot open " ++ target ++ ": " ++ openReason e)
    match r.op with
    | .hereDoc => do
      let id ← newStream { text := target, seekable := false, file := none }
      point (some (.reader id))
    | .hereString => do
      let id ← newStream { text := target ++ "\n", seekable := false, file := none }
      point (some (.reader id))
    | .output | .clobber | .append =>
      if target == "/dev/null" then point (some (.writer .null))
      else
        match special with
        | some n => point (sh.fdOf n)
        | none =>
          let path := Path.cleanElements (Path.absolute sh.cwdPath target)
          let existing := sh.tree.get? path
          if r.op == .output && sh.options.noclobber && (match existing with
              | some (.file _ _) => true
              | _ => false) then
            fail (if bash then target ++ ": cannot overwrite existing file" else "cannot create " ++ target ++ ": File exists")
          else
            let content := if r.op == .append then (match existing with
                | some (.file c _) => c
                | _ => "") else ""
            match sh.tree.writeFile sh.cwd target content with
            | .ok t => do
              let t := if existing.isNone then t.madeWith path 0o666 sh.fileMask else t
              modify fun sh => { sh with tree := t }
              point (some (.writer (.file path)))
            | .error e => createFail e.errno
    | .input | .readWrite =>
      if target == "/dev/null" then do
        let id ← newStream { text := "", seekable := true, file := none }
        point (some (.reader id))
      else
        match special with
        | some n => point (sh.fdOf n)
        | none =>
          match sh.tree.stat sh.cwd target with
          | .ok (.file text _) => do
            let path := Path.cleanElements (Path.absolute sh.cwdPath target)
            let id ← newStream { text, seekable := true, file := some path }
            point (some (.reader id))
          | .ok .dir =>
            if r.op == .readWrite then createFail .isDir
            else do
              let id ← newStream { text := "", seekable := true, file := none }
              point (some (.reader id))
          | .error e =>
            if r.op == .readWrite && e == .noEntry then
              match sh.tree.writeFile sh.cwd target "" with
              | .ok t => do
                let path := Path.cleanElements (Path.absolute sh.cwdPath target)
                modify fun sh => { sh with tree := t.madeWith path 0o666 sh.fileMask }
                let id ← newStream { text := "", seekable := true, file := some path }
                point (some (.reader id))
              | .error e' => createFail e'.errno
            else openFail e
    | .duplicateOutput | .duplicateInput =>
      if target == "-" then point none
      else
        match target.toList with
        | [d] =>
          if d.isDigit then
            let n := d.toNat - 48
            match sh.fdOf n with
            | some f => point (some f)
            | none => fail (target ++ ": Bad file descriptor")
          else fail (if bash then target ++ ": ambiguous redirect" else "Syntax error: Bad fd number")
        | _ =>
          if bash && !target.isEmpty && target.all Char.isDigit then fail (target ++ ": Bad file descriptor")
          else fail (if bash then target ++ ": ambiguous redirect" else "Syntax error: Bad fd number")

/-- Runs a simple command. -/
def runSimple : Nat → Nat → List Assignment → List Word → List Redirect → ShellM Unit
  | 0, _, _, _, _ => throw .exhausted
  | fuel + 1, line, assigns, words, redirects => do
    modify fun sh => { sh with line, substitutionStatus := none }
    let fields ← expandWords fuel words
    let bash := (← get).dialect == .bash
    let failed : Nat := if bash then 1 else 2
    match fields with
    | [] =>
      let ok ← withRedirects fuel redirects false (do
        let values ← expandAssignments fuel assigns true
        traceCommand values []
        setStatus ((← get).substitutionStatus.getD 0))
      if !ok then setStatus failed
      afterCommand fuel
    | name :: args =>
      let sh ← get
      let kind := commandKind sh name false
      let keepRedirects := name == "exec" && (args == [] || args == ["--"])
      let ok ← withRedirects fuel redirects keepRedirects (do
        let values ← expandAssignments fuel assigns false
        traceCommand values fields
        match kind with
        | .special =>
          if bash then
            let saved ← pushTemporary values
            tryCatch (runSpecial fuel name args) fun
              | .error => popTemporary saved
              | stop => do
                popTemporary saved
                throw stop
            popTemporary saved
          else
            for (n, v) in values do assignChecked "" n v
            runSpecial fuel name args
        | .function =>
          match (← get).functions.find? (·.1 == name) with
          | some (_, f) => callFunction fuel name f args values
          | none => setStatus 0
        | .builtin => do
          let saved ← pushTemporary values
          tryCatch (runRegular fuel name args) fun stop => do
            popTemporary saved
            throw stop
          popTemporary saved
        | _ => runProgram fuel name args values)
      if !ok then setStatus failed
      if !ok && kind == .special && !bash then throw .error
      afterCommand fuel

/-- Runs a special builtin. -/
def runSpecial : Nat → String → List String → ShellM Unit
  | 0, _, _ => throw .exhausted
  | fuel + 1, name, args => do
    let bash := (← get).dialect == .bash
    if name == ":" then setStatus 0
    else if name == "exit" then exitBuiltin fuel args
    else if name == "return" && bash then do
      let sh ← get
      if sh.funcDepth == 0 && sh.dotDepth == 0 then
        complain "return: can only \x60return\x27 from a function or sourced script"
        setStatus 2
      else
        match args with
        | [] => throw (.returnFrom sh.status)
        | [a] =>
          match testInteger a with
          | .ok n => throw (.returnFrom (n % 256).toNat)
          | .error _ =>
            complain ("return: " ++ a ++ ": numeric argument required")
            throw (.returnFrom 2)
        | _ => abandonLine "return: too many arguments"
    else if (name == "break" || name == "continue") && bash then do
      let sh ← get
      let n ← match args with
        | a :: _ =>
          match testInteger a with
          | .ok n => pure n
          | .error _ => do
            complain (name ++ ": " ++ a ++ ": numeric argument required")
            throw (.exit 128)
        | [] => pure 1
      if sh.loopDepth == 0 then
        complain (name ++ ": only meaningful in a \x60for\x27, \x60while\x27, or \x60until\x27 loop")
        setStatus 0
      else if n < 1 then
        complain (name ++ ": " ++ toString n ++ ": loop count out of range")
        setStatus 1
        throw (if name == "break" then .breakLoop 1 else .continueLoop 1)
      else
        setStatus 0
        let n := min n.toNat sh.loopDepth
        throw (if name == "break" then .breakLoop n else .continueLoop n)
    else if name == "return" then do
      let sh ← get
      let code ← match args with
        | a :: _ => countArg "return" a
        | [] => pure sh.status
      if sh.funcDepth > 0 || sh.dotDepth > 0 then throw (.returnFrom code)
      else exitBuiltin fuel [toString code]
    else if name == "break" || name == "continue" then do
      let n ← match args with
        | a :: _ => countArg name a
        | [] => pure 1
      if n == 0 then builtinFail name ("Illegal number: " ++ args.headD "")
      let depth := (← get).loopDepth
      setStatus 0
      if depth > 0 then
        let n := min n depth
        throw (if name == "break" then .breakLoop n else .continueLoop n)
    else if name == "eval" then do
      let (_, words) ← readBuiltinOptions "eval" [] [] args
      setStatus 0
      let sh ← get
      if sh.dialect == .bash then
        -- bash numbers the lines of the text from the line of `eval`, but its syntax errors
        -- from the text's own first line, and goes on after them
        let label := sh.syntaxLabel
        modify fun sh => { sh with syntaxLabel := "eval: ", traceLevel := sh.traceLevel + 1 }
        let restore : ShellM Unit :=
          modify fun sh' => { sh' with syntaxLabel := label, traceLevel := sh.traceLevel }
        tryCatch (runScriptText fuel (" ".intercalate words) sh.line) fun
          | .error => restore
          | stop => do
            restore
            throw stop
        restore
      else runScriptText fuel (" ".intercalate words) 1
    else if name == "." then dotBuiltin fuel args
    else if name == "exec" then execBuiltin fuel args
    else if name == "set" then setBuiltin args
    else if name == "shift" then shiftBuiltin args
    else if name == "export" then do
      if (← get).dialect == .bash then bashMarkBuiltin false args else exportBuiltin false args
    else if name == "readonly" then do
      if (← get).dialect == .bash then bashMarkBuiltin true args else exportBuiltin true args
    else if name == "unset" then unsetBuiltin args
    else if name == "trap" then do
      if (← get).dialect == .bash then bashTrapBuiltin args else trapBuiltin args
    else if name == "times" then do
      writeTo 1 "0m0.000000s 0m0.000000s\n0m0.000000s 0m0.000000s\n"
      setStatus 0
    else if name == "local" then localBuiltin args
    else setStatus 0

/-- Runs a builtin that is not special: an error fails only the builtin. -/
def runRegular : Nat → String → List String → ShellM Unit
  | 0, _, _ => throw .exhausted
  | fuel + 1, name, args =>
    tryCatch (regularBody fuel name args) fun
      | .error => setStatus 2
      | stop => throw stop

/-- The work of a builtin that is not special. -/
def regularBody : Nat → String → List String → ShellM Unit
  | 0, _, _ => throw .exhausted
  | fuel + 1, name, args => do
    let bash := (← get).dialect == .bash
    if bash && bashBuiltins.contains name then bashOnlyBuiltin fuel name args
    else if bash && name == "local" then declareBuiltin "local" args
    else if bash && name == "type" then bashTypeBuiltin args
    else if bash && name == "read" then bashReadBuiltin args
    else if name == "echo" then echoBuiltin args
    else if name == "printf" then printfBuiltin args
    else if name == "test" || name == "[" then testBuiltin name args
    else if name == "true" then setStatus 0
    else if name == "false" then setStatus 1
    else if name == "read" then readBuiltin args
    else if name == "cd" || name == "chdir" then cdBuiltin args
    else if name == "pwd" then pwdBuiltin args
    else if name == "kill" then do
      if (← get).dialect == .bash then bashKillBuiltin args else killBuiltin args
    else if name == "local" then localBuiltin args
    else if name == "umask" then umaskBuiltin args
    else if name == "type" then describeCommands true args
    else if name == "hash" then hashBuiltin args
    else if name == "alias" then aliasBuiltin args
    else if name == "ulimit" then ulimitBuiltin args
    else if name == "unalias" then unaliasBuiltin args
    else if name == "getopts" then getoptsBuiltin args
    else if name == "command" then commandBuiltin fuel args
    else if name == "wait" then do
      let sh ← get
      waitFor (sh.jobsEnd - sh.clock)
      match args.getLast? with
      | some a =>
        match a.toNat? with
        | some p => setStatus (((sh.finished.find? (·.1 == p)).map (·.2)).getD 127)
        | none => builtinFail "wait" ("Illegal number: " ++ a)
      | none => setStatus 0
    else setStatus 0

/-- The builtins only bash has. -/
def bashOnlyBuiltin : Nat → String → List String → ShellM Unit
  | 0, _, _ => throw .exhausted
  | fuel + 1, name, args =>
    if name == "source" then bashSource fuel args
    else if name == "let" then letBuiltin fuel args
    else if name == "declare" || name == "typeset" then declareBuiltin name args
    else if name == "shopt" then shoptBuiltin args
    else if name == "mapfile" || name == "readarray" then mapfileBuiltin name args
    else if name == "builtin" then
      match args with
      | [] => setStatus 0
      | b :: rest =>
        if specialBuiltins.contains b then runSpecial fuel b rest
        else if regularBuiltins.contains b || bashBuiltins.contains b then runRegular fuel b rest
        else do
          complain ("builtin: " ++ b ++ ": not a shell builtin")
          setStatus 1
    else setStatus 0

/-- `let`: evaluates each argument as arithmetic; the status is 0 when the last value is not
zero. -/
def letBuiltin : Nat → List String → ShellM Unit
  | 0, _ => throw .exhausted
  | fuel + 1, args => do
    if args.isEmpty then
      complain "let: expression expected"
      setStatus 1
    else
      let mut last : Option Int := some 0
      for a in args do
        match evalArith true a (bashLookup (← get)) with
        | .ok (v, assigned) =>
          for (k, x) in assigned do assignArithmetic fuel k (toString x)
          last := some v
        | .error e =>
          complain ("let: " ++ e.message a)
          last := none
          break
      match last with
      | some v => setStatus (if v == 0 then 1 else 0)
      | none => setStatus 1

/-- `command`: with `-v` or `-V` says how names would be run; else runs a command skipping
functions, a special builtin losing what is special about it. -/
def commandBuiltin : Nat → List String → ShellM Unit
  | 0, _ => throw .exhausted
  | fuel + 1, args => do
    let (opts, words) ← readBuiltinOptions "command" ['p', 'v', 'V'] [] args
    if opts.any (·.1 == 'v') then describeCommands false words
    else if opts.any (·.1 == 'V') then describeCommands true words
    else
      match words with
      | [] => setStatus 0
      | name :: rest =>
        let sh ← get
        match commandKind sh name false with
        | .special =>
          tryCatch (runSpecial fuel name rest) fun
            | .error => setStatus 2
            | stop => throw stop
        | .builtin => runRegular fuel name rest
        | .function =>
          if regularBuiltins.contains name then runRegular fuel name rest
          else runProgram fuel name rest []
        | _ => runProgram fuel name rest []

/-- `.`: runs the commands of a file in the shell; a name without a slash is looked for on
`PATH`. -/
def dotBuiltin : Nat → List String → ShellM Unit
  | 0, _ => throw .exhausted
  | fuel + 1, args => do
    let (_, words) ← readBuiltinOptions "." [] [] args
    if (← get).dialect == .bash then bashSource fuel words else
    match words with
    | [] => setStatus 0
    | file :: _ =>
      let sh ← get
      let candidates := if file.contains '/' then [file]
        else pathCandidates ((sh.var? "PATH").getD "") file
      let found := candidates.find? fun p =>
        match sh.tree.stat sh.cwd p with
        | .ok (.file _ _) => true
        | _ => false
      match found with
      | none =>
        if file.contains '/' then builtinFail "." ("cannot open " ++ file ++ ": No such file")
        else builtinFail "." (file ++ ": not found")
      | some p =>
        match sh.tree.readFile sh.cwd p with
        | .ok text => do
          modify fun sh => { sh with dotDepth := sh.dotDepth + 1 }
          setStatus 0
          let returned ← tryCatch (do runScriptText fuel text 1; pure none) fun
            | .returnFrom n => pure (some n)
            | stop => do
              modify fun sh => { sh with dotDepth := sh.dotDepth - 1 }
              throw stop
          modify fun sh => { sh with dotDepth := sh.dotDepth - 1 }
          match returned with
          | some n => setStatus n
          | none => pure ()
        | .error e => builtinFail "." ("cannot open " ++ file ++ ": " ++ openReason e.errno)

/-- `.` and `source` of bash: a name without a slash is looked for on `PATH`, then in the working
directory; words after the file are the positional parameters while it runs. Its messages
name the file, and a syntax error in it ends only the file. -/
def bashSource : Nat → List String → ShellM Unit
  | 0, _ => throw .exhausted
  | fuel + 1, words => do
    match words with
    | [] =>
      complain ".: filename argument required"
      writeTo 2 ".: usage: . filename [arguments]\n"
      setStatus 2
    | file :: params =>
      let sh ← get
      let candidates := if file.contains '/' then [file]
        else pathCandidates ((sh.var? "PATH").getD "") file ++ [file]
      let found := candidates.find? fun p =>
        match sh.tree.stat sh.cwd p with
        | .ok (.file _ _) => true
        | _ => false
      match found with
      | none =>
        complain (file ++ ": No such file or directory")
        setStatus 1
      | some p =>
        match sh.tree.readFile sh.cwd p with
        | .ok text => do
          let saved ← get
          modify fun sh => { sh with dotDepth := sh.dotDepth + 1, sourceName := some p, syntaxLabel := ""
                                     params := if params.isEmpty then sh.params else params }
          setStatus 0
          let restore : ShellM Unit := modify fun sh =>
            { sh with dotDepth := saved.dotDepth, sourceName := saved.sourceName
                      syntaxLabel := saved.syntaxLabel
                      params := if params.isEmpty then sh.params else saved.params }
          let returned ← tryCatch (do runScriptText fuel text 1; pure none) fun
            | .returnFrom n => pure (some n)
            | .error => pure none
            | stop => do
              restore
              throw stop
          restore
          match returned with
          | some n => setStatus n
          | none => pure ()
        | .error e =>
          complain (file ++ ": " ++ errnoText e.errno)
          setStatus 1

/-- `exec`: with a command, runs it as a program in the shell's place, so that the shell ends
with its status and without its `EXIT` trap; alone its redirections stay. -/
def execBuiltin : Nat → List String → ShellM Unit
  | 0, _ => throw .exhausted
  | fuel + 1, args => do
    let (_, words) ← readBuiltinOptions "exec" [] [] args
    match words with
    | [] => setStatus 0
    | name :: rest =>
      let sh ← get
      let started := if name.contains '/' then startAsShell sh.dialect sh.tree sh.cwd name name rest
        else (startFromPath sh.dialect sh.tree sh.cwd ((sh.var? "PATH").getD "") name rest).map (·.2)
      let started := if !name.contains '/' && !foundOnPath sh.tree sh.cwd ((sh.var? "PATH").getD "") name
        then .error .noEntry else started
      match started with
      | .error e =>
        let (msg, code) := execFailure e
        complain ("exec: " ++ name ++ ": " ++ msg)
        modify fun sh => { sh with traps := [] }
        throw (.exit code)
      | .ok s =>
        modify fun sh => { sh with vars := sh.environment, traps := [] }
        let t ← runProcessAs fuel s sh.environment sh.pid
        match t with
        | .exited n => throw (.exit n)
        | .signaled sig => throw (.killed sig)

/-- `exit`: ends the shell with the status given, or the last one; its `EXIT` trap runs
first. -/
def exitBuiltin : Nat → List String → ShellM Unit
  | 0, _ => throw .exhausted
  | _ + 1, args => do
    if (← get).dialect == .bash then
      match args with
      | [] => throw (.exit (← get).status)
      | a :: rest =>
        match testInteger a with
        | .ok n =>
          if rest.isEmpty then throw (.exit (n % 256).toNat) else abandonLine "exit: too many arguments"
        | .error _ =>
          complain ("exit: " ++ a ++ ": numeric argument required")
          throw (.exit 2)
    let code ← match args with
      | a :: _ => countArg "exit" a
      | [] => pure (← get).status
    throw (.exit (code % 256))

/-- Calls a function with arguments; the assignments before it last while it runs. -/
def callFunction : Nat → String → ShellFunction → List String → List (String × String) → ShellM Unit
  | 0, _, _, _, _ => throw .exhausted
  | fuel + 1, fname, f, args, values => do
    let saved ← get
    let temporary ← pushTemporary values
    let bash := saved.dialect == .bash
    modify fun sh => { sh with params := args, funcDepth := sh.funcDepth + 1
                               locals := [] :: sh.locals
                               optIndex := 1, optOffset := none
                               localArrays := [] :: sh.localArrays }
    -- bash keeps the names of the functions being run in FUNCNAME, innermost first
    if bash then
      let outer := match saved.array? "FUNCNAME" with
        | some arr => arr.values
        | none => ["main"]
      assignArray "FUNCNAME" (ShellArray.ofList (fname :: outer))
    let finish : ShellM Unit := do
      let sh ← get
      match sh.locals with
      | frame :: outer =>
        set { sh with locals := outer }
        popTemporary frame
      | [] => pure ()
      let sh ← get
      match sh.localArrays with
      | frame :: outer =>
        set { sh with localArrays := outer }
        for (n, arr) in frame.reverse do
          match arr with
          | some a => assignArray n a
          | none => modify fun sh => { sh with arrays := sh.arrays.filter (·.1 != n) }
      | [] => pure ()
      if bash then
        match saved.array? "FUNCNAME" with
        | some a => assignArray "FUNCNAME" a
        | none => modify fun sh => { sh with arrays := sh.arrays.filter (·.1 != "FUNCNAME") }
      popTemporary temporary
      modify fun sh => { sh with params := saved.params, funcDepth := saved.funcDepth
                                 optIndex := saved.optIndex
                                 optOffset := saved.optOffset }
    let code ← tryCatch (do run fuel f.body; pure (← get).status) fun
      | .returnFrom n => pure n
      | stop => do
        finish
        throw stop
    finish
    setStatus code

/-- Runs a program by name: found on `PATH`, or at a path when the name has a slash. -/
def runProgram : Nat → String → List String → List (String × String) → ShellM Unit
  | 0, _, _, _ => throw .exhausted
  | fuel + 1, name, args, values => do
    let sh ← get
    let searchPath := (sh.var? "PATH").getD ""
    let started : Except Errno (Option String × Start) :=
      if name.contains '/' then (startAsShell sh.dialect sh.tree sh.cwd name name args).map (none, ·)
      else if !foundOnPath sh.tree sh.cwd searchPath name then .error .noEntry
      else (startFromPath sh.dialect sh.tree sh.cwd searchPath name args).map fun (p, s) => (some p, s)
    match started with
    | .error e =>
      if sh.dialect == .bash then
        let isDir := name.contains '/' && (match targetAt sh.tree sh.cwd name with
          | .ok .dir => true
          | _ => false)
        let (msg, code) : String × Nat :=
          if !name.contains '/' && e == .noEntry then ("command not found", 127)
          else if isDir then ("Is a directory", 126)
          else if e == .noEntry then (errnoText e, 127)
          else (errnoText e, 126)
        complain (name ++ ": " ++ msg)
        setStatus code
      else
        let (msg, code) := execFailure e
        complain (name ++ ": " ++ msg)
        setStatus code
    | .ok (found, s) =>
      match found with
      | some p =>
        if !sh.hashed.any (·.1 == name) then
          modify fun sh => { sh with hashed := sh.hashed ++ [(name, p)] }
      | none => pure ()
      let pid := (← get).nextPid
      modify fun sh => { sh with nextPid := sh.nextPid + 1 }
      match ← runProcessAs fuel s (programEnvironment sh values) pid with
      | .exited n => setStatus n
      | .signaled sig =>
        if sig != 2 && sig != 13 then writeTo 2 (signalDescription sig ++ "\n")
        setStatus (128 + sig)

/-- Runs what a program starts as a process with the environment `env` and the process number
`pid`, in the shell's files and descriptors; the shell's own state comes back afterwards. -/
def runProcessAs : Nat → Start → List (String × String) → Nat → ShellM Termination
  | 0, _, _, _ => throw .exhausted
  | fuel + 1, s, env, pid => do
    let saved ← get
    set (freshProcess saved env pid)
    let t ← tryCatch (do runStart fuel s; pure (Termination.exited (← get).status)) fun
      | .exit n => pure (.exited n)
      | .error => pure (.exited 2)
      | .killed sig => pure (.signaled sig)
      | .exhausted => throw .exhausted
      | _ => do pure (.exited (← get).status)
    modify (restoreProcess saved)
    pure t

/-- Runs what a program starts, in the current process. -/
def runStart : Nat → Start → ShellM Unit
  | 0, _ => throw .exhausted
  | fuel + 1, .shell d argv0 args => runShellMain fuel d argv0 args
  | _ + 1, .utility u argv0 args => do
    let sh ← get
    runUtility u argv0 args sh.environment
  | fuel + 1, .env argv0 args => runEnv fuel argv0 args
  | fuel + 1, .launch k argv0 args => runLaunch fuel k argv0 args

/-- Runs a program that starts another: `xargs` runs its command for the arguments it reads;
`timeout`, `nice` and `nohup` become their command, found on the search path of the
environment. -/
def runLaunch : Nat → Launcher → String → List String → ShellM Unit
  | 0, _, _, _ => throw .exhausted
  | fuel + 1, .xargs, argv0, args => runXargs fuel argv0 args
  | fuel + 1, .awk, argv0, args => Regress.Awk.runAwk { command := awkCommand fuel } argv0 args
  | fuel + 1, kind, argv0, args => do
    let tryHelp := "Try \x27" ++ argv0 ++ " --help\x27 for more information.\n"
    let parsed : Except (String × Nat) (Option TimeLimit × Option Int × List String) := match kind with
      | .timeout => (readTimeoutArgs argv0 args).map fun (t, command) => (some t, none, command)
      | .nice => (readNiceArgs argv0 args).map fun (adjustment, command) => (none, adjustment, command)
      | _ =>
        match args with
        | [] => .error (argv0 ++ ": missing operand\n" ++ tryHelp, 125)
        | "--" :: [] => .error (argv0 ++ ": missing operand\n" ++ tryHelp, 125)
        | "--" :: rest => .ok (none, none, rest)
        | a :: rest =>
          if a.startsWith "-" && a.length > 1 then
            .error (argv0 ++ ": invalid option -- \x27" ++ String.ofList ((a.toList.drop 1).take 1) ++ "\x27\n" ++ tryHelp, 125)
          else .ok (none, none, a :: rest)
    match parsed with
    | .error (msg, code) =>
      writeTo 2 msg
      throw (.exit code)
    | .ok (_, some _, []) =>
      writeTo 2 (argv0 ++ ": a command must be given with an adjustment\n" ++ tryHelp)
      throw (.exit 125)
    | .ok (_, none, []) =>
      writeTo 1 (toString (← get).niceness ++ "\n")
      throw (.exit 0)
    | .ok (limit, adjustment, name :: rest) =>
      if kind == .nice then
        -- the niceness only rises: lowering it is not allowed to this user
        let now := (← get).niceness
        let target := max (-20) (min 19 (now + adjustment.getD 10))
        if target < now then writeTo 2 (argv0 ++ ": cannot set niceness: Permission denied\n")
        else modify fun sh => { sh with niceness := target }
      let sh ← get
      let searchPath := ((sh.environment.find? (·.1 == "PATH")).map (·.2)).getD "/bin:/usr/bin"
      match startFromSearch sh.tree sh.cwd searchPath name rest with
      | .error e =>
        let (reason, code) : String × Nat := match e with
          | .permissionDenied => ("Permission denied", 126)
          | _ => ("No such file or directory", 127)
        let msg := if kind == .nice then argv0 ++ ": \x27" ++ name ++ "\x27: " ++ reason
          else argv0 ++ ": failed to run command \x27" ++ name ++ "\x27: " ++ reason
        writeTo 2 (msg ++ "\n")
        throw (.exit code)
      | .ok s =>
        match limit with
        | some t => runTimed fuel t argv0 name s
        | none => runStart fuel s

/-- Runs the command of `timeout` within its time limit. A command that has not ended when the
limit passes, before the case's own limit does, is sent the signal, and so is `timeout`'s own
group: `KILL` ends `timeout` too. Another signal that ends the command makes `timeout` end with
the status 124, or with the status a shell gives the signal when the status is to be kept. A
command the signal does not end runs on, until `KILL` follows when asked for. -/
def runTimed : Nat → TimeLimit → String → String → Start → ShellM Unit
  | 0, _, _, _, _ => throw .exhausted
  | fuel + 1, t, argv0, name, s => do
    let before ← get
    let cut : Option Nat := t.limit.bind fun ns =>
      let d := before.clock + ns
      match before.deadline with
      | some outer => if d < outer then some d else none
      | none => some d
    match cut with
    | none => runStart fuel s
    | some d =>
      set { before with deadline := some d }
      tryCatch (runStart fuel s) fun
        | .exhausted => do
          modify fun sh => { restoreProcess before sh with clock := d }
          let send (signal : Nat) : ShellM Unit := do
            if t.verbose then
              let shown := (shellSignalName true signal).getD (toString signal)
              writeTo 2 (argv0 ++ ": sending signal " ++ shown ++ " to command " ++ quoteName name ++ "\n")
          send t.signal
          if t.signal == 9 then throw (.killed 9)
          if signalAction t.signal != .terminate then
            match t.killAfter with
            | none => throw .exhausted
            | some k =>
              waitFor k
              send 9
              throw (.killed 9)
          if t.preserve then throw (.exit (128 + t.signal))
          throw (.exit 124)
        | stop => throw stop
      modify fun sh => { sh with deadline := before.deadline }

/-- Runs a command line for `awk` as `sh -c` does: reading `input` when given, else the standard
input of `awk`; its output captured when `capture`, else written to the standard output of `awk`.
The text captured and the status, 256 and the signal for a command a signal ended. -/
def awkCommand : Nat → String → Option String → Bool → ShellM (String × Nat)
  | 0, _, _, _ => throw .exhausted
  | fuel + 1, command, input, capture => do
    let sh ← get
    let fds := sh.fds
    match input with
    | some text =>
      let id ← newStream { text, seekable := false, file := none }
      setFd 0 (some (.reader id))
    | none => pure ()
    let buffer ← if capture then do
        let b ← newBuffer
        setFd 1 (some (.writer (.buffer b)))
        pure (some b)
      else pure none
    let pid := (← get).nextPid
    modify fun sh => { sh with nextPid := sh.nextPid + 1 }
    let t ← runProcessAs fuel (.shell .posix "sh" ["-c", command]) sh.environment pid
    let text ← match buffer with
      | some b => takeBuffer b
      | none => pure ""
    modify fun sh => { sh with fds }
    pure (text, match t with
      | .exited n => n
      | .signaled sig => 256 + sig)

/-- `xargs`: reads its input into command lines and runs each, with standard input empty. Its
status is 123 when a command failed, and it stops at once when one cannot run, exits with 255
or is killed. -/
def runXargs : Nat → String → List String → ShellM Unit
  | 0, _, _ => throw .exhausted
  | fuel + 1, argv0, args => do
    match readXargsOptions argv0 args with
    | .error (msg, code) =>
      writeTo 2 msg
      throw (.exit code)
    | .ok (o, command) =>
      let sh ← get
      let input ← match o.argFile with
        | some f =>
          match sh.tree.readFile sh.cwd f with
          | .ok t => pure t
          | .error e => do
            writeTo 2 (argv0 ++ ": cannot open input file \x27" ++ f ++ "\x27: " ++ errnoText e.errno ++ "\n")
            throw (.exit 1)
        | none => do
          let (text, _, _) ← currentInput
          leaveInput ""
          pure text
      let (lines, failure) := xargsCommands o command input
      let status ← runCommandLines fuel argv0 o.verbose lines 0
      match failure with
      | some m =>
        writeTo 2 (argv0 ++ ": " ++ m ++ "\n")
        throw (.exit 1)
      | none => throw (.exit status)

/-- Runs the command lines of `xargs` in turn: the status so far, 123 once one failed. -/
def runCommandLines : Nat → String → Bool → List (List String) → Nat → ShellM Nat
  | 0, _, _, _, _ => throw .exhausted
  | _ + 1, _, _, [], status => pure status
  | fuel + 1, argv0, verbose, line :: more, status => do
    match line with
    | [] => runCommandLines fuel argv0 verbose more status
    | name :: rest =>
      if verbose then writeTo 2 (" ".intercalate line ++ "\n")
      let sh ← get
      let searchPath := ((sh.environment.find? (·.1 == "PATH")).map (·.2)).getD "/bin:/usr/bin"
      match startFromSearch sh.tree sh.cwd searchPath name rest with
      | .error e =>
        let (reason, code) : String × Nat := match e with
          | .permissionDenied => ("Permission denied", 126)
          | _ => ("No such file or directory", 127)
        writeTo 2 (argv0 ++ ": " ++ name ++ ": " ++ reason ++ "\n")
        throw (.exit code)
      | .ok s =>
        let fds := sh.fds
        let empty ← newStream { text := "", seekable := true, file := none }
        modify fun sh => { sh with fds := (0, .reader empty) :: sh.fds.filter (·.1 != 0) }
        let pid := (← get).nextPid
        modify fun sh => { sh with nextPid := sh.nextPid + 1 }
        let t ← runProcessAs fuel s sh.environment pid
        modify fun sh => { sh with fds }
        match t with
        | .exited 255 =>
          writeTo 2 (argv0 ++ ": " ++ name ++ ": exited with status 255; aborting\n")
          throw (.exit 124)
        | .signaled sig =>
          writeTo 2 (argv0 ++ ": " ++ name ++ ": terminated by signal " ++ toString sig ++ "\n")
          throw (.exit 125)
        | .exited n =>
          runCommandLines fuel argv0 verbose more (if n != 0 then 123 else status)

/-- `env`: changes the environment and runs a program with it, or writes the environment. -/
def runEnv : Nat → String → List String → ShellM Unit
  | 0, _, _ => throw .exhausted
  | fuel + 1, argv0, args => do
    let sh ← get
    let fault (m : String) (code : Nat) : ShellM Unit := do
      writeTo 2 m
      throw (.exit code)
    let tryHelp := "Try \x27" ++ argv0 ++ " --help\x27 for more information.\n"
    match readEnvArgs argv0 sh.environment args with
    | .error (m, code) => fault m code
    | .ok r =>
      match r.unset.find? fun n => n.isEmpty || n.contains '=' with
      | some n => fault (argv0 ++ ": cannot unset " ++ quoteName n ++ ": Invalid argument\n") 125
      | none =>
      let env := if r.clear then [] else sh.environment
      let env := env.filter fun (k, _) => !r.unset.contains k
      let settings := r.words.takeWhile (·.contains '=')
      match settings.find? (·.startsWith "=") with
      | some bad => fault (argv0 ++ ": cannot set " ++ quoteName bad ++ ": Invalid argument\n") 125
      | none =>
      let env := settings.foldl (fun e s =>
        let k := String.ofList (s.toList.takeWhile (· != '='))
        Proc.withVar e k (String.ofList (s.toList.drop (k.length + 1)))) env
      match r.words.drop settings.length with
      | [] =>
        if r.chdir.isSome then
          fault (argv0 ++ ": must specify command with --chdir (-C)\n" ++ tryHelp) 125
        else
          writeTo 1 (String.join (env.map fun (k, v) => k ++ "=" ++ v ++ (if r.nul then "\x00" else "\n")))
          throw (.exit 0)
      | name :: more =>
        if r.nul then fault (argv0 ++ ": cannot specify --null (-0) with command\n" ++ tryHelp) 125
        else
        let cwd ← match r.chdir with
          | none => pure sh.cwd
          | some d =>
            if sh.tree.isDirAt sh.cwd d then pure (Path.cleanElements (Path.absolute ("/" ++ "/".intercalate sh.cwd) d))
            else do
              let reason := match sh.tree.stat sh.cwd d with
                | .ok _ => "Not a directory"
                | .error e => errnoText e
              fault (argv0 ++ ": cannot change directory to " ++ quoteName d ++ ": " ++ reason ++ "\n") 125
              pure sh.cwd
        let searchPath := ((env.find? (·.1 == "PATH")).map (·.2)).getD "/bin:/usr/bin"
        match startFromSearch sh.tree cwd searchPath name more with
        | .error e =>
          let (reason, code) : String × Nat := match e with
            | .permissionDenied => ("Permission denied", 126)
            | _ => ("No such file or directory", 127)
          let hint := if code == 127 && name.any isSplitBlank then
              argv0 ++ ": use -[v]S to pass options in shebang lines\n" else ""
          fault (argv0 ++ ": " ++ quoteName name ++ ": " ++ reason ++ "\n" ++ hint) code
        | .ok s =>
          modify fun sh => { sh with vars := env, exported := env.map (·.1), cwd }
          runStart fuel s

/-- Runs a shell called by `argv0` with the arguments `args`: it reads its options, runs its
commands, then its `EXIT` trap, and ends. -/
def runShellMain : Nat → Dialect → String → List String → ShellM Unit
  | 0, _, _, _ => throw .exhausted
  | fuel + 1, dialect, argv0, args => do
    modify fun sh =>
      if dialect == .bash then startBashVariables { sh with dialect, name := argv0 } argv0
      else startVariables { sh with dialect, name := argv0 }
    match readShellArgs argv0 args with
    | .error m =>
      writeTo 2 (argv0 ++ ": 0: " ++ m ++ "\n")
      throw (.exit 2)
    | .ok st =>
      modify fun sh => { sh with options := st.options, params := st.params }
      let outcome ← tryCatch (do
          match st.source with
          | .command text =>
            modify fun sh => { sh with name := st.name, syntaxLabel := if dialect == .bash then "-c: " else "" }
            runScriptText fuel text 1
          | .file path =>
            let sh ← get
            match scriptTextAt sh.tree sh.cwd path with
            | .ok text =>
              modify fun sh => { sh with name := st.name }
              runScriptText fuel text 1
            | .error e =>
              writeTo 2 (argv0 ++ ": 0: cannot open " ++ path ++ ": " ++ openReason e.errno ++ "\n")
              throw (.exit 2)
          | .input =>
            let (text, _, _) ← currentInput
            leaveInput ""
            runScriptText fuel text 1
          pure (← get).status) fun
        | .exit n => pure n
        | .error => pure 2
        | .returnFrom n => pure n
        | .breakLoop _ => do pure (← get).status
        | .continueLoop _ => do pure (← get).status
        | stop => throw stop
      setStatus outcome
      exitTrap fuel
      throw (.exit (← get).status)

/-- Runs the `EXIT` trap of a shell that is ending, once; an `exit` in it sets the status. -/
def exitTrap : Nat → ShellM Unit
  | 0 => throw .exhausted
  | fuel + 1 => do
    let sh ← get
    match trapFor sh 0 with
    | some action =>
      let status := sh.status
      modify fun sh => { sh with traps := sh.traps.filter (·.1 != "0") }
      let code ← tryCatch (do runScriptText fuel action 1; pure status) fun
        | .exit n => pure n
        | .error => pure 2
        | .killed s => throw (.killed s)
        | .exhausted => throw .exhausted
        | _ => pure status
      setStatus code
    | none => pure ()

/-- Runs the text of a script in the current shell, its first line numbered `firstLine`, one
top-level command at a time; a syntax error ends the shell with the status 2 after the
commands before it have run. -/
def runScriptText : Nat → String → Nat → ShellM Unit
  | 0, _, _ => throw .exhausted
  | fuel + 1, source, firstLine => do
    let sh ← get
    let (ts, tokenError, warnings) := tokenizeWarning sh.dialect source firstLine
    let g := Grammar.ofScript sh.dialect [] source firstLine
    -- bash reads a text that does not end its last line as if it did
    let g := if sh.dialect == .bash && !source.isEmpty && !source.endsWith "\n"
      then { g with eofLine := g.eofLine + 1 } else g
    runLines fuel g tokenError warnings ts

/-- Reads and runs the top-level lines of a script's tokens in order, each read under the
aliases as they are when its turn comes (in bash only when `expand_aliases` is set); under
`set -n` they are only read. An error that stops the reading is reported on its line; bash
reports each line of its message, and an error of its expansions drops only the rest of the
line. The warnings of the reading (bash's here-documents closed by the end of the text) are
written when the last line has been read. -/
def runLines : Nat → Grammar → Option (Nat × String) → List (Nat × String) → List Token → ShellM Unit
  | 0, _, _, _, _ => throw .exhausted
  | fuel + 1, g, tokenError, warnings, ts => do
    let sh ← get
    let bash := sh.dialect == .bash
    let aliases := if bash && !sh.shopts.contains "expand_aliases" then [] else sh.aliases
    let report (line : Nat) (part : String) : ShellM Unit := do
      let shown := if sh.syntaxLabel == "eval: " then line + 1 - g.firstLine else line
      writeTo 2 (sh.name ++ ": " ++ sh.syntaxLabel ++ "line " ++ toString shown ++ ": " ++ part ++ "\n")
    match nextLine { g with aliases } tokenError ts with
    | .ok (_, c, rest) =>
      let last := rest.all (·.kind == .newline)
      if last then
        for (line, w) in warnings do report line w
      if !sh.options.noexec then
        if bash then
          tryCatch (run fuel c) fun
            | .abandon => pure ()
            | stop => throw stop
        else run fuel c
      runLines fuel g tokenError (if last then [] else warnings) rest
    | .error none => pure ()
    | .error (some (line, msg)) =>
      if bash then
        for part in msg.splitOn "\n" do report line part
        setStatus 2
        throw .error
      else
        modify fun sh => { sh with line }
        shellFail msg

end

/-- What a process leaves: how it ended, its two output streams, the files, the input it did
not read, the nanoseconds it ran, and whether the time limit ended it. -/
structure ProcessEnd where
  termination : Termination
  out : String
  err : String
  tree : FileTree
  input : String
  elapsed : Nat := 0
  timedOut : Bool := false
  deriving Inhabited

/-- How deep a process may run. -/
def processFuel : Nat := 20000

/-- Runs what a program starts as a process of its own, with the environment `env`, the files
`tree`, the working directory `cwd`, standard input `input`, the process number `pid` and that
of its parent `parentPid`, killed when the nanoseconds of `limit` have passed. A process that
does not end is killed at the limit; without one it ends as if killed at once. The process
finds the null device in its files. -/
def runProcess (s : Start) (env : List (String × String)) (tree : FileTree) (cwd : List String)
    (input : Stream) (pid parentPid : Nat) (limit : Option Nat) : ProcessEnd :=
  let start : Proc := { tree := withDevices tree, cwd, vars := env, exported := env.map (·.1), pid, parentPid, nextPid := pid + 1
                        streams := [(2, input)], nextId := 3, deadline := limit
                        fds := [(0, .reader 2), (1, .writer (.buffer 0)), (2, .writer (.buffer 1))] }
  let (r, sh) := ((runStart processFuel s).run).run start
  let termination : Termination := match r with
    | .ok () => .exited sh.status
    | .error (.exit n) => .exited n
    | .error (.killed sig) => .signaled sig
    | .error .exhausted => .signaled 9
    | .error .error => .exited 2
    | .error _ => .exited sh.status
  let (elapsed, timedOut) := match r, limit with
    | .error .exhausted, some d => (d, true)
    | _, _ => (sh.clock, false)
  -- the devices are the system's, not files the process leaves
  let tree := if (tree.get? ["dev"]).isSome then sh.tree else sh.tree.erase ["dev"]
  { termination, out := sh.bufferText 0, err := sh.bufferText 1, tree
    input := ((sh.streamOf 2).map (·.text)).getD "", elapsed, timedOut }

end Regress.Shell
