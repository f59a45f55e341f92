import Regress.Shell.Utility.Options
import Regress.Shell.Utility.Print
import Regress.Shell.Signal

/-!
# Programs that start programs

`xargs` runs a command with arguments read from its input; `timeout`, `nice` and `nohup` run a
command as it is given. This module reads their options and, for `xargs`, turns the input into
the command lines to run; running them is the shell's part.

`xargs` reads items separated by blanks and line breaks, in which single and double quotes
keep blanks and a backslash keeps the next character. With `-0` or `-d` the items are
separated by that one character and nothing else is special. Items are given to the command
all at once, or `-n` at a time, or the items of `-L` lines at a time (a line ending with a
blank goes on into the next), or with `-I` one line at a time put in place of a marker in the
command's own arguments. With no items the command still runs once, unless `-r`.
-/

namespace Regress.Shell

/-- The options of `xargs` that shape the command lines. -/
structure XargsOptions where
  separator : Option Char := none
  argFile : Option String := none
  eof : Option String := none
  replace : Option String := none
  maxLines : Option Nat := none
  maxArgs : Option Nat := none
  noRunIfEmpty : Bool := false
  verbose : Bool := false
  deriving Repr, Inhabited

/-- The options `xargs` knows. -/
def xargsOptionSpecs : List OptSpec := [
  { key := "0", short := some '0', long := some "null" },
  { key := "a", short := some 'a', long := some "arg-file", arg := .required },
  { key := "d", short := some 'd', long := some "delimiter", arg := .required },
  { key := "E", short := some 'E', arg := .required },
  { key := "e", short := some 'e', long := some "eof", arg := .optional },
  { key := "I", short := some 'I', arg := .required },
  { key := "i", short := some 'i', long := some "replace", arg := .optional },
  { key := "L", short := some 'L', arg := .required },
  { key := "l", short := some 'l', long := some "max-lines", arg := .optional },
  { key := "n", short := some 'n', long := some "max-args", arg := .required },
  { key := "P", short := some 'P', long := some "max-procs", arg := .required },
  { key := "p", short := some 'p', long := some "interactive" },
  { key := "r", short := some 'r', long := some "no-run-if-empty" },
  { key := "s", short := some 's', long := some "max-chars", arg := .required },
  { key := "t", short := some 't', long := some "verbose" },
  { key := "x", short := some 'x', long := some "exit" },
  { key := "o", short := some 'o', long := some "open-tty" },
  { key := "process-slot-var", long := some "process-slot-var", arg := .required },
  { key := "show-limits", long := some "show-limits" },
  { key := "help", long := some "help" },
  { key := "version", long := some "version" }]

/-- The character a `-d` argument names: itself, or a C escape. -/
def delimiterChar (s : String) : Option Char :=
  match s.toList with
  | [c] => some c
  | ['\\', c] =>
    if c == 'n' then some '\n' else if c == 't' then some '\t' else if c == '\\' then some '\\'
    else if c == '0' then some '\x00' else if c == 'a' then some '\x07' else if c == 'b' then some '\x08'
    else if c == 'f' then some '\x0c' else if c == 'r' then some '\r' else if c == 'v' then some '\x0b'
    else none
  | '\\' :: 'x' :: hex =>
    (hex.foldl (fun acc c => acc.bind fun n => (hexDigitValue c).map (n * 16 + ·)) (some 0)).map Char.ofNat
  | '\\' :: oct =>
    if oct.all fun c => '0' ≤ c && c ≤ '7' then
      some (Char.ofNat (oct.foldl (fun n c => n * 8 + (c.toNat - 48)) 0))
    else none
  | _ => none
where
  /-- The value of a hexadecimal digit. -/
  hexDigitValue (c : Char) : Option Nat :=
    if c.isDigit then some (c.toNat - 48)
    else if 'a' ≤ c && c ≤ 'f' then some (c.toNat - 87)
    else if 'A' ≤ c && c ≤ 'F' then some (c.toNat - 55)
    else none

/-- Reads the options of `xargs`: the options, the command with its first arguments, or the
message and status for a bad option. -/
def readXargsOptions (prog : String) (args : List String) :
    Except (String × Nat) (XargsOptions × List String) :=
  match parseOptions xargsOptionSpecs true args with
  | .error e => .error (e.message prog ++ "Try \x27" ++ prog ++ " --help\x27 for more information.\n", 1)
  | .ok (opts, command) =>
    let number (key : String) : Except (String × Nat) (Option Nat) :=
      match opts.last? key with
      | none => .ok none
      | some v =>
        match v.toNat? with
        | some 0 => .error (prog ++ ": value 0 for -" ++ key ++ " option should be >= 1\n", 1)
        | some n => .ok (some n)
        | none => .error (prog ++ ": invalid number \"" ++ v ++ "\" for -" ++ key ++ " option\n", 1)
    let separator : Except (String × Nat) (Option Char) :=
      match opts.last? "d" with
      | some d =>
        match delimiterChar d with
        | some c => .ok (some c)
        | none => .error (prog ++ ": invalid input delimiter specification " ++ d ++
            ": the delimiter must be either a single character or an escape sequence starting with \\.\n", 1)
      | none => .ok (if opts.has "0" then some '\x00' else none)
    match separator, number "n", number "L" with
    | .error e, _, _ | _, .error e, _ | _, _, .error e => .error e
    | .ok sep, .ok maxArgs, .ok maxLines =>
      let replace := match opts.last? "I" with
        | some r => some r
        | none => (opts.last? "i").map fun r => if r.isEmpty then "\x7b\x7d" else r
      let maxLines := if opts.has "l" then some (((opts.last? "l").bind String.toNat?).getD 1) else maxLines
      let eof := match opts.last? "E" with
        | some e => if e.isEmpty then none else some e
        | none => (opts.last? "e").bind fun e => if e.isEmpty then none else some e
      .ok ({ separator := sep, argFile := opts.last? "a", eof, replace
             maxLines := if replace.isSome then some 1 else maxLines
             maxArgs := if replace.isSome then none else maxArgs
             noRunIfEmpty := opts.has "r", verbose := opts.has "t" || opts.has "p" },
           if command.isEmpty then ["echo"] else command)

/-- An item of `xargs` input with the number of the line it ends on, and whether that line
goes on into the next. -/
structure XargsItem where
  text : String
  line : Nat
  continues : Bool := false
  deriving Repr, Inhabited

/-- Splits `xargs` input into items the default way: blanks and line breaks separate, quotes
and backslashes keep. Items stop at the end-of-file item. The items, and the message when a
quote is left open. -/
def xargsItems (eof : Option String) (lineMode : Bool) (input : String) :
    List XargsItem × Option String :=
  let blank (c : Char) : Bool := c == ' ' || c == '\t'
  let unmatched (q : Char) : String :=
    "unmatched " ++ (if q == '\x27' then "single" else "double") ++
      " quote; by default quotes are special to xargs unless you use the -0 option"
  -- cur: the item being read, if one has started
  let rec go : Nat → List Char → Option String → Nat → List XargsItem → List XargsItem × Option String
    | 0, _, _, _, acc => (acc.reverse, none)
    | fuel + 1, cs, cur, line, acc =>
      let finish (cont : Bool) : List XargsItem :=
        match cur with
        | some t => { text := t, line, continues := cont } :: acc
        | none => acc
      match cs with
      | [] => ((finish false).reverse, none)
      | c :: rest =>
        if c == '\n' then
          let lastBlank := false
          match cur with
          | some t =>
            if eof == some t then (acc.reverse, none)
            else go fuel rest none (line + 1) ({ text := t, line, continues := lastBlank } :: acc)
          | none =>
            -- a line ending in blanks goes on into the next
            let acc := match acc with
              | a :: more => if a.line == line then a :: more else a :: more
              | [] => []
            go fuel rest none (line + 1) acc
        else if (blank c && !lineMode) || (blank c && lineMode && cur.isNone) then
          match cur with
          | some t =>
            if eof == some t then (acc.reverse, none)
            else
              -- blanks at the end of a line continue it
              let continues := (rest.dropWhile blank).head? == some '\n'
              go fuel rest none line ({ text := t, line, continues } :: acc)
          | none =>
            let acc := match acc with
              | a :: more =>
                if a.line == line && (rest.dropWhile blank).head? == some '\n' then { a with continues := true } :: more
                else a :: more
              | [] => []
            go fuel rest none line acc
        else if c == '\x27' || c == '"' then
          let inside := rest.takeWhile fun x => x != c && x != '\n'
          match rest.drop inside.length with
          | q :: after => if q == c then go fuel after (some ((cur.getD "") ++ String.ofList inside)) line acc
            else (acc.reverse, some (unmatched c))
          | [] => (acc.reverse, some (unmatched c))
        else if c == '\\' then
          match rest with
          | d :: after => go fuel after (some ((cur.getD "").push d)) (if d == '\n' then line + 1 else line) acc
          | [] => go fuel [] (some (cur.getD "")) line acc
        else go fuel rest (some ((cur.getD "").push c)) line acc
  go (2 * input.length + 2) input.toList none 0 []

/-- Splits `xargs` input at one separator character: every piece is an item, a last empty one
aside. -/
def separatedItems (sep : Char) (eof : Option String) (input : String) : List XargsItem :=
  let parts := input.splitOn (String.singleton sep)
  let parts := if parts.getLast? == some "" then parts.dropLast else parts
  let parts := match eof with
    | some e => parts.takeWhile (· != e)
    | none => parts
  parts.zipIdx.map fun (p, i) => { text := p, line := i }

/-- Groups items into the argument lists of the commands: `-n` items at a time, or the items of
`-L` lines (counting a line that goes on as part of the next), or all at once. -/
def xargsBatches (o : XargsOptions) (items : List XargsItem) : List (List String) :=
  match o.maxArgs, o.maxLines with
  | some n, _ =>
    let rec chunks : Nat → List String → List (List String)
      | 0, _ => []
      | fuel + 1, xs => if xs.isEmpty then [] else xs.take n :: chunks fuel (xs.drop n)
    chunks (items.length + 1) (items.map (·.text))
  | none, some lines =>
    -- logical lines: a line that continues is joined to the next
    let (groups, current, _) := items.foldl (fun (acc : List (List String) × List String × Nat) it =>
      let (groups, current, count) := acc
      let current := current ++ [it.text]
      if it.continues then (groups, current, count)
      else if count + 1 ≥ lines then (groups ++ [current], [], 0)
      else (groups, current, count + 1)) ([], [], 0)
    if current.isEmpty then groups else groups ++ [current]
  | none, none => if items.isEmpty then [] else [items.map (·.text)]

/-- The command lines `xargs` runs for its input, and the message that stops it, if any. -/
def xargsCommands (o : XargsOptions) (command : List String) (input : String) :
    List (List String) × Option String :=
  let (items, failure) : List XargsItem × Option String :=
    match o.separator with
    | some sep => (separatedItems sep o.eof input, none)
    | none =>
      match o.replace with
      | some _ =>
        let (items, failure) := xargsItems o.eof true input
        -- each line is one item, blanks kept inside it
        let byLine := (items.map (·.line)).eraseDups.map fun l =>
          { text := " ".intercalate ((items.filter (·.line == l)).map (·.text)), line := l : XargsItem }
        (byLine, failure)
      | none => xargsItems o.eof false input
  let lines : List (List String) :=
    match o.replace with
    | some marker =>
      items.map fun it => command.map fun a => a.replace marker it.text
    | none =>
      let batches := xargsBatches o items
      let batches := if batches.isEmpty && !o.noRunIfEmpty && failure.isNone then [[]] else batches
      batches.map (command ++ ·)
  (if failure.isSome && o.replace.isNone && o.maxArgs.isNone && o.maxLines.isNone then [] else lines, failure)

/-- What `timeout` is asked for: the nanoseconds its command may run, none for no limit; the
signal it sends the command then; the nanoseconds after which it sends `KILL` when the command
is still running; whether it then ends as the command did rather than with the status 124; and
whether it says when it sends a signal. -/
structure TimeLimit where
  limit : Option Nat := none
  signal : Nat := 15
  killAfter : Option Nat := none
  preserve : Bool := false
  verbose : Bool := false
  deriving Inhabited

/-- The signal an operand names: a number, or a name with or without `SIG` in any case. A
number that is the status of a process a signal ended stands for that signal. -/
def operandSignal (s : String) : Option Nat :=
  let valid (n : Nat) : Option Nat :=
    if (1 ≤ n && n ≤ 31) || (34 ≤ n && n ≤ 64) then some n else none
  match s.toList with
  | c :: _ =>
    if c.isDigit then
      if !s.all Char.isDigit then none
      else
        let n := s.toNat?.getD 0
        let low := n % 128
        valid (if n < Nat.pow 2 31 && low != 0 && low != 127 then low else n)
    else
      let up := s.toUpper
      match signalByName true up with
      | some n => some n
      | none => if up.startsWith "SIG" then signalByName true (up.drop 3).toString else none
  | [] => none

/-- Reads the options of `timeout`: its time limit, the command and its arguments, or the
message and status. Its options are read in order, so the first bad one is reported. -/
def readTimeoutArgs (prog : String) (args : List String) :
    Except (String × Nat) (TimeLimit × List String) :=
  let specs : List OptSpec := [
    { key := "k", short := some 'k', long := some "kill-after", arg := .required },
    { key := "s", short := some 's', long := some "signal", arg := .required },
    { key := "v", short := some 'v', long := some "verbose" },
    { key := "foreground", long := some "foreground" },
    { key := "preserve-status", long := some "preserve-status" },
    { key := "help", long := some "help" },
    { key := "version", long := some "version" }]
  let tryHelp := "Try \x27" ++ prog ++ " --help\x27 for more information.\n"
  let badInterval (d : String) : Except (String × Nat) (TimeLimit × List String) :=
    .error (prog ++ ": invalid time interval " ++ quoteName d ++ "\n" ++ tryHelp, 125)
  match parseOptions specs true args with
  | .error e => .error (e.message prog ++ tryHelp, 125)
  | .ok (opts, operands) =>
    let step (acc : Except (String × Nat) TimeLimit) (o : String × String) :
        Except (String × Nat) TimeLimit := do
      let t ← acc
      match o with
      | ("s", v) =>
        match operandSignal v with
        | some n => pure { t with signal := n }
        | none => throw (prog ++ ": " ++ quoteName v ++ ": invalid signal\n" ++ tryHelp, 125)
      | ("k", v) =>
        if isInterval v then
          let ns := intervalNanos v
          pure { t with killAfter := if ns == 0 then none else some ns }
        else throw (prog ++ ": invalid time interval " ++ quoteName v ++ "\n" ++ tryHelp, 125)
      | ("v", _) => pure { t with verbose := true }
      | ("preserve-status", _) => pure { t with preserve := true }
      | _ => pure t
    match opts.foldl step (.ok {}) with
    | .error e => .error e
    | .ok t =>
      match operands with
      | duration :: command :: rest =>
        if isInterval duration then
          let ns := intervalNanos duration
          .ok ({ t with limit := if ns == 0 then none else some ns }, command :: rest)
        else badInterval duration
      | _ => .error (tryHelp, 125)

/-- Reads an adjustment of `nice`: blanks, an optional sign and decimal digits, clamped to
`±39`, the widest change between the least and the greatest niceness. -/
def readAdjustment (s : String) : Option Int :=
  let cs := s.toList.dropWhile fun c => c == ' ' || c == '\t' || c == '\n' || c == '\x0b' || c == '\x0c' || c == '\r'
  let (neg, ds) := match cs with
    | '-' :: r => (true, r)
    | '+' :: r => (false, r)
    | r => (false, r)
  if ds.isEmpty || !ds.all Char.isDigit then none
  else
    let v : Int := ((String.ofList ds).toNat?.getD 0 : Nat)
    let v := if neg then -v else v
    some (max (-39) (min 39 v))

/-- Reads the options of `nice`: the adjustment if one is given, and the command and its
arguments (none to write the niceness), or the message and status. An argument `-N` (or
`--N`, `-+N`) first is an adjustment too. -/
def readNiceArgs (prog : String) (args : List String) :
    Except (String × Nat) (Option Int × List String) :=
  let signed (s : List Char) : Bool := match s with
    | d :: _ => d.isDigit
    | [] => false
  let args := match args with
    | a :: rest =>
      match a.toList with
      | '-' :: more =>
        let shorthand := signed more || (match more with
          | c :: r => (c == '-' || c == '+') && signed r
          | [] => false)
        if shorthand then "-n" :: String.ofList more :: rest else a :: rest
      | _ => a :: rest
    | [] => []
  let specs : List OptSpec := [
    { key := "n", short := some 'n', long := some "adjustment", arg := .required },
    { key := "help", long := some "help" },
    { key := "version", long := some "version" }]
  match parseOptions specs true args with
  | .error e => .error (e.message prog ++ "Try \x27" ++ prog ++ " --help\x27 for more information.\n", 125)
  | .ok (opts, command) =>
    match opts.last? "n" with
    | none => .ok (none, command)
    | some text =>
      match readAdjustment text with
      | some v => .ok (some v, command)
      | none => .error (prog ++ ": invalid adjustment " ++ quoteName text ++ "\n", 125)

/-! ## env -/

/-- What `env` is asked to do: start from an empty environment, remove names, work in another
directory, end printed lines with NUL; and the words after its options. -/
structure EnvRequest where
  clear : Bool := false
  unset : List String := []
  chdir : Option String := none
  nul : Bool := false
  words : List String := []
  deriving Repr, Inhabited

/-- The options `env` knows. -/
def envOptionSpecs : List OptSpec := [
  { key := "i", short := some 'i', long := some "ignore-environment" },
  { key := "0", short := some '0', long := some "null" },
  { key := "u", short := some 'u', long := some "unset", arg := .required },
  { key := "C", short := some 'C', long := some "chdir", arg := .required },
  { key := "S", short := some 'S', long := some "split-string", arg := .required },
  { key := "v", short := some 'v', long := some "debug" },
  { key := "signal", long := some "default-signal", arg := .optional },
  { key := "signal", long := some "ignore-signal", arg := .optional },
  { key := "signal", long := some "block-signal", arg := .optional },
  { key := "signal", long := some "list-signal-handling" },
  { key := "help", long := some "help" },
  { key := "version", long := some "version" }]

/-- Whether a character separates the words of a `-S` string. -/
def isSplitBlank (c : Char) : Bool :=
  c == ' ' || c == '\t' || c == '\n' || c == '\x0b' || c == '\x0c' || c == '\r'

/-- The name of a variable in `$\x7bNAME\x7d` at the start of the characters after `$`, and
what follows the closing brace. -/
def envVariableRef (cs : List Char) : Option (String × List Char) :=
  match cs with
  | '\x7b' :: c :: rest =>
    if c.isAlpha || c == '_' then
      let more := rest.takeWhile fun d => d.isAlphanum || d == '_'
      match rest.drop more.length with
      | '\x7d' :: after => some (String.ofList (c :: more), after)
      | _ => none
    else none
  | _ => none

/-- The state of splitting a `-S` string: the words done, the word being built (if one was
started), and whether a quote is open. -/
structure EnvSplit where
  done : List String := []
  current : Option String := none
  single : Bool := false
  double : Bool := false

/-- The state with a character added to the word being built. -/
def EnvSplit.push (st : EnvSplit) (s : String) : EnvSplit :=
  { st with current := some (st.current.getD "" ++ s) }

/-- The state with the word being built finished. -/
def EnvSplit.finish (st : EnvSplit) : EnvSplit :=
  match st.current with
  | some w => { st with done := st.done ++ [w], current := none }
  | none => st

/-- The words of a `-S` string. Blanks outside quotes separate words; single quotes keep
everything but `\\` and `\'`; double quotes keep blanks; a backslash escapes `"`, `#`, `$`,
`'` and itself, `\_` separates words (a blank inside double quotes), `\c` ends the string, and
`\f \n \r \t \v` are control characters; `$\x7bNAME\x7d` is the value of a variable of
`env`, outside single quotes; a `#` that starts a word ends the string. -/
def splitArgString (vars : List (String × String)) (s : String) : Except String (List String) :=
  let rec go : Nat → List Char → EnvSplit → Except String (List String)
    | 0, _, st => .ok st.finish.done
    | _ + 1, [], st =>
      if st.single || st.double then .error "no terminating quote in -S string"
      else .ok st.finish.done
    | fuel + 1, c :: rest, st =>
      if c == '\x27' && !st.double then go fuel rest { st.push "" with single := !st.single }
      else if c == '"' && !st.single then go fuel rest { st.push "" with double := !st.double }
      else if isSplitBlank c && !st.single && !st.double then
        go fuel (rest.dropWhile isSplitBlank) st.finish
      else if c == '#' && st.current.isNone && !st.single && !st.double then .ok st.done
      else if c == '\\' && !(st.single && rest.head? != some '\\' && rest.head? != some '\x27') then
        match rest with
        | [] => .error "invalid backslash at end of string in -S"
        | e :: after =>
          if e == '"' || e == '#' || e == '$' || e == '\x27' || e == '\\' then go fuel after (st.push (String.singleton e))
          else if e == '_' then
            if st.double then go fuel after (st.push " ") else go fuel after st.finish
          else if e == 'c' then
            if st.double then .error "\x27\\c\x27 must not appear in double-quoted -S string"
            else .ok st.finish.done
          else if e == 'f' then go fuel after (st.push "\x0c")
          else if e == 'n' then go fuel after (st.push "\n")
          else if e == 'r' then go fuel after (st.push "\r")
          else if e == 't' then go fuel after (st.push "\t")
          else if e == 'v' then go fuel after (st.push "\x0b")
          else .error ("invalid sequence \x27\\" ++ String.singleton e ++ "\x27 in -S")
      else if c == '$' && !st.single then
        match envVariableRef rest with
        | some (name, after) =>
          match vars.lookup name with
          | some v => go fuel after (st.push v)
          | none => go fuel after st
        | none => .error ("only $\x7bVARNAME\x7d expansion is supported, error at: " ++ String.ofList (c :: rest))
      else go fuel rest (st.push (String.singleton c))
  go (s.length + 1) s.toList {}

/-- Why `env` stops before running anything: the message and the status. -/
abbrev EnvFault := String × Nat

/-- Reads the options of `env` into a request, splitting each `-S` string into words that are
read in turn, before the words after it; the environment `vars` gives the values of
`$\x7bNAME\x7d`. Options end at the first word that is not one. -/
def readEnvOptions (prog : String) (vars : List (String × String)) :
    Nat → List String → EnvRequest → Except EnvFault EnvRequest
  | 0, words, r => .ok { r with words }
  | _ + 1, [], r => .ok r
  | fuel + 1, w :: rest, r =>
    let tryHelp := "Try \x27" ++ prog ++ " --help\x27 for more information.\n"
    let apply (r : EnvRequest) (o : String × String) : EnvRequest :=
      if o.1 == "i" then { r with clear := true }
      else if o.1 == "0" then { r with nul := true }
      else if o.1 == "u" then { r with unset := r.unset ++ [o.2] }
      else if o.1 == "C" then { r with chdir := some o.2 }
      else r
    let continueWith (opts : OptList) (rest : List String) : Except EnvFault EnvRequest :=
      let r := opts.foldl apply r
      match opts.getLast? with
      | some ("S", text) =>
        match splitArgString vars text with
        | .ok split => readEnvOptions prog vars fuel (split ++ rest) r
        | .error m => .error (prog ++ ": " ++ m ++ "\n", 125)
      | _ => readEnvOptions prog vars fuel rest r
    if w == "--" then .ok { r with words := rest }
    else if w.startsWith "--" then
      match readOptions envOptionSpecs true 1 [w] [] [] with
      | .ok (opts, _) => continueWith opts rest
      | .error (_, .missingLong n) =>
        match rest with
        | v :: rest' => continueWith [((findLong envOptionSpecs n w).toOption.map (·.key) |>.getD n, v)] rest'
        | [] => .error ((OptError.missingLong n).message prog ++ tryHelp, 125)
      | .error (_, e) => .error (e.message prog ++ tryHelp, 125)
    else if w.length ≥ 2 && w.startsWith "-" then
      match readLetters envOptionSpecs (w.toList.drop 1) rest [] with
      | .ok (opts, rest') => continueWith opts rest'
      | .error (_, e) => .error (e.message prog ++ tryHelp, 125)
    else .ok { r with words := w :: rest }

/-- Reads the arguments of `env`: its options, then a lone `-` that also empties the
environment. -/
def readEnvArgs (prog : String) (vars : List (String × String)) (args : List String) :
    Except EnvFault EnvRequest :=
  match readEnvOptions prog vars (4 * args.length + 64) args {} with
  | .ok r =>
    match r.words with
    | "-" :: rest => .ok { r with clear := true, words := rest }
    | _ => .ok r
  | .error e => .error e

end Regress.Shell
