import Regress.Shell.Builtins
import Regress.Shell.Arith

/-!
# Builtins of bash

The builtins bash has beyond those of the POSIX shell, and its own ways with some they share.

* **Variables.** `declare` (and `typeset`) sets variables and their attributes: `-a` and `-A`
  make indexed and associative arrays, `-r` read only, `-x` exported, `-i` reads values as
  arithmetic; in a function it makes them local unless `-g`. `local` is `declare` inside a
  function. `-p` shows variables as `declare` commands that would make them again.
* **Options.** `shopt` sets, unsets and lists the options of bash that `set` does not hold.
* **Input.** `mapfile` (or `readarray`) reads the lines of standard input into an array.
* **Commands.** `type` says what each name is run as, in bash's words.
-/

namespace Regress.Shell

/-- A name with a subscript, `name[subscript]`, cut into the two. -/
def splitSubscript (name : String) : Option (String × String) :=
  if name.endsWith "]" then
    match name.splitOn "[" with
    | base :: _ :: _ =>
      if isName base then some (base, ((name.drop (base.length + 1)).dropEnd 1).toString) else none
    | _ => none
  else none

/-- How bash's arithmetic finds a variable: an element `name[subscript]` of an array by its
subscript, itself evaluated; any other name as the shell looks it up. -/
def bashLookup (sh : Proc) (name : String) : Option String :=
  match splitSubscript name with
  | some (base, sub) =>
    match sh.array? base with
    | some arr =>
      if arr.associative then arr.get? sub
      else
        match evalArith true sub sh.lookup with
        | .ok (i, _) => arr.get? (toString (if i < 0 then (arr.nextIndex : Int) + i else i))
        | .error _ => none
    | none => if sub == "0" then sh.var? base else none
  | none => sh.lookup name

/-- Whether a text holds a character special to the shell, as bash's trace and quoting judge
it: blanks, quotes, operators, pattern and expansion characters, and `~` or `#` where they
would be read as such. -/
def hasShellMetas (s : String) : Bool :=
  let rec go : List Char → Option Char → Bool
    | [], _ => false
    | c :: rest, prev =>
      if " \t\n\x27\"\\|&;()<>!\x7b\x7d*[?]^$".toList.contains c || c == backquote then true
      else if c == '~' && (prev.isNone || prev == some '=' || prev == some ':') then true
      else if c == '#' && prev.isNone then true
      else go rest (some c)
  go s.toList none

/-- A text in single quotes as bash writes it, a quote inside as `\x27\\\x27\x27`; a single
quote alone is written with a backslash. -/
def bashSingleQuote (s : String) : String :=
  if s == "\x27" then "\\\x27"
  else "\x27" ++ String.join (s.toList.map fun c => if c == '\x27' then "\x27\\\x27\x27" else String.singleton c) ++ "\x27"

/-- A word as bash's trace writes it: `\x27\x27` when empty, in single quotes when it holds a
character special to the shell, in `$\x27...\x27` when it holds one that does not print. -/
def traceWord (w : String) : String :=
  if w.isEmpty then "\x27\x27"
  else if hasShellMetas w then bashSingleQuote w
  else if needsAnsiQuote w then ansiQuote w
  else w

/-- A value quoted for the shell to read again, as `${name@Q}` quotes it. -/
def reusableQuote (s : String) : String :=
  if needsAnsiQuote s then ansiQuote s else bashSingleQuote s

/-- The prefix of a line of bash's trace: the first character of `PS4` once more for each
level of command substitution or `eval`, then the rest of it. -/
def tracePrefix (sh : Proc) : String :=
  let ps4 := (sh.var? "PS4").getD "+ "
  match ps4.toList with
  | c :: rest => String.ofList (List.replicate (sh.traceLevel + 1) c) ++ String.ofList rest
  | [] => ""

/-- Writes a line of bash's trace. -/
def traceLine (text : String) : ShellM Unit := do
  let sh ← get
  if sh.options.xtrace then writeTo 2 (tracePrefix sh ++ text ++ "\n")

/-- The options of `shopt`, in the order it lists them, with whether bash starts with each
on. -/
def shoptDefaults : List (String × Bool) :=
  [("autocd", false), ("assoc_expand_once", false), ("cdable_vars", false), ("cdspell", false),
    ("checkhash", false), ("checkjobs", false), ("checkwinsize", true), ("cmdhist", true),
    ("compat31", false), ("compat32", false), ("compat40", false), ("compat41", false),
    ("compat42", false), ("compat43", false), ("compat44", false), ("complete_fullquote", true),
    ("direxpand", false), ("dirspell", false), ("dotglob", false), ("execfail", false),
    ("expand_aliases", false), ("extdebug", false), ("extglob", false), ("extquote", true),
    ("failglob", false), ("force_fignore", true), ("globasciiranges", true),
    ("globskipdots", true), ("globstar", false), ("gnu_errfmt", false), ("histappend", false),
    ("histreedit", false), ("histverify", false), ("hostcomplete", true), ("huponexit", false),
    ("inherit_errexit", false), ("interactive_comments", true), ("lastpipe", false),
    ("lithist", false), ("localvar_inherit", false), ("localvar_unset", false),
    ("login_shell", false), ("mailwarn", false), ("no_empty_cmd_completion", false),
    ("nocaseglob", false), ("nocasematch", false), ("noexpand_translation", false),
    ("nullglob", false), ("patsub_replacement", true), ("progcomp", true),
    ("progcomp_alias", false), ("promptvars", true), ("restricted_shell", false),
    ("shift_verbose", false), ("sourcepath", true), ("varredir_close", false), ("xpg_echo", false)]

/-- The options of `shopt` that bash starts with on. -/
def shoptsOn : List String :=
  (shoptDefaults.filter (·.2)).map (·.1)

/-- A text padded with blanks on the right to a width. -/
def padRight (width : Nat) (s : String) : String :=
  s ++ String.ofList (List.replicate (width - s.length) ' ')

/-- A value in double quotes as `declare -p` writes it: `"`, `\`, `$` and backquotes get a
backslash. -/
def doubleQuoted (v : String) : String :=
  "\"" ++ String.join (v.toList.map fun c =>
    if c == '"' || c == '\\' || c == '$' || c == backquote then "\\" ++ String.singleton c
    else String.singleton c) ++ "\""

/-- The line of `declare -p` for a name: its attributes and its value, or its elements. -/
def declarationLine (sh : Proc) (name : String) : Option String :=
  let attrs (arrayFlag : String) : String :=
    let flags := arrayFlag ++ (if sh.readonly.contains name then "r" else "") ++
      (if sh.exported.contains name then "x" else "")
    if flags.isEmpty then "--" else "-" ++ flags
  match sh.array? name with
  | some arr =>
    let items := arr.items.map fun (k, v) => "[" ++ k ++ "]=" ++ doubleQuoted v
    if arr.associative then
      some ("declare " ++ attrs "A" ++ " " ++ name ++ "=(" ++ String.join (items.map (· ++ " ")) ++ ")")
    else some ("declare " ++ attrs "a" ++ " " ++ name ++ "=(" ++ " ".intercalate items ++ ")")
  | none =>
    match (sh.vars.find? fun (k, _) => k == name) with
    | some (_, v) => some ("declare " ++ attrs "" ++ " " ++ name ++ "=" ++ doubleQuoted v)
    | none => none

/-- The letters `declare` takes. -/
def declareLetters : List Char :=
  ['a', 'A', 'f', 'F', 'g', 'i', 'I', 'l', 'n', 'p', 'r', 't', 'u', 'x']

/-- Reads the option words of `declare`: the letters turned on, those turned off with `+`,
and the words after them; or the letter that is no option. -/
def declareOptions : List String → List Char → List Char → Except Char (List Char × List Char × List String)
  | [], on, off => .ok (on, off, [])
  | a :: rest, on, off =>
    if a == "--" then .ok (on, off, rest)
    else
      match a.toList with
      | '-' :: letters@(_ :: _) =>
        match letters.find? (!declareLetters.contains ·) with
        | some c => .error c
        | none => declareOptions rest (on ++ letters) off
      | '+' :: letters@(_ :: _) =>
        match letters.find? (!declareLetters.contains ·) with
        | some c => .error c
        | none => declareOptions rest on (off ++ letters)
      | _ => .ok (on, off, a :: rest)

/-- The usage line of `declare` and its kin. -/
def declareUsage (who : String) : String :=
  if who == "local" then "local: usage: local [option] name[=value] ..."
  else who ++ ": usage: " ++ who ++ " [-aAfFgiIlnrtux] [name[=value] ...] or " ++ who ++ " -p [-aAfFilnrtux] [name ...]"

/-- `declare`, `typeset` and `local` of bash: sets variables and their attributes, or shows
them with `-p`. In a function the variables are local unless `-g`. -/
def declareBuiltin (who : String) (args : List String) : ShellM Unit := do
  let sh ← get
  if who == "local" && sh.locals.isEmpty then
    complain "local: can only be used in a function"
    setStatus 1
  else
  match declareOptions args [] [] with
  | .error c =>
    complain (who ++ ": -" ++ String.singleton c ++ ": invalid option")
    writeTo 2 (declareUsage who ++ "\n")
    setStatus 2
  | .ok (on, off, names) =>
    if on.contains 'f' || on.contains 'F' then
      let listed := if names.isEmpty then (sh.functions.map (·.1)).mergeSort (fun a b => decide (a ≤ b)) else names
      let known := listed.filter fun n => sh.functions.any (·.1 == n)
      writeTo 1 (String.join (known.map fun n => (if on.contains 'F' then "declare -f " else "") ++ n ++ "\n"))
      setStatus (if known.length == listed.length then 0 else 1)
    else if on.contains 'p' || (names.isEmpty && on.isEmpty && off.isEmpty) then
      let listed := if names.isEmpty
        then ((sh.vars.map (·.1)) ++ sh.arrays.map (·.1)).mergeSort (fun a b => decide (a ≤ b)) |>.eraseDups
        else names
      let mut status := 0
      for n in listed do
        match declarationLine sh n with
        | some line => writeTo 1 (line ++ "\n")
        | none =>
          complain (who ++ ": " ++ n ++ ": not found")
          status := 1
      setStatus status
    else
      let mut status := 0
      for a in names do
        let key := String.ofList (a.toList.takeWhile fun c => c != '=' && c != '+' && c != '[')
        let afterKey := String.ofList (a.toList.drop key.length)
        let (append, value) : Bool × Option String :=
          if afterKey.startsWith "+=" then (true, some (afterKey.drop 2).toString)
          else if afterKey.startsWith "=" then (false, some (afterKey.drop 1).toString)
          else (false, none)
        if !isName key || !(afterKey.isEmpty || afterKey.startsWith "=" || afterKey.startsWith "+=") then
          complain (who ++ ": \x60" ++ a ++ "\x27: not a valid identifier")
          status := 1
          continue
        let sh ← get
        -- a variable declared in a function belongs to it, and starts unset there
        if !sh.locals.isEmpty && !on.contains 'g' then
          match sh.locals, sh.localArrays with
          | frame :: outer, arrays :: outerArrays =>
            if !frame.any (·.1 == key) then
              let scalar := (sh.vars.find? fun (k, _) => k == key).map (·.2)
              set { sh with locals := (frame ++ [(key, scalar)]) :: outer
                            localArrays := (arrays ++ [(key, sh.array? key)]) :: outerArrays
                            vars := sh.vars.filter (·.1 != key)
                            arrays := sh.arrays.filter (·.1 != key) }
          | _, _ => pure ()
        if on.contains 'i' then
          modify fun sh => { sh with integers := if sh.integers.contains key then sh.integers else sh.integers ++ [key] }
        if off.contains 'i' then
          modify fun sh => { sh with integers := sh.integers.filter (· != key) }
        let sh ← get
        if on.contains 'a' && (sh.array? key).isNone then
          assignArray key (ShellArray.ofList ((sh.vars.find? fun (k, _) => k == key).map (·.2)).toList)
        if on.contains 'A' && (sh.array? key).isNone then
          assignArray key { associative := true }
        match value with
        | some v =>
          if (← get).readonly.contains key then
            complain (who ++ ": " ++ key ++ ": readonly variable")
            status := 1
            continue
          let old := ((← get).var? key).getD ""
          let integer := (← get).integers.contains key
          assign key (if append && integer then "(" ++ (if old.isEmpty then "0" else old) ++ ")+(" ++ v ++ ")"
            else if append then old ++ v else v)
        | none => pure ()
        if on.contains 'r' then
          modify fun sh => { sh with readonly := if sh.readonly.contains key then sh.readonly else sh.readonly ++ [key] }
        if on.contains 'x' then
          modify fun sh => { sh with exported := if sh.exported.contains key then sh.exported else sh.exported ++ [key] }
        if off.contains 'x' then
          modify fun sh => { sh with exported := sh.exported.filter (· != key) }
      setStatus status

/-- `export` and `readonly` of bash: mark variables, giving them values; `-p` or no names
shows the marked ones as `declare` commands; `-n` takes the mark of `export` away. -/
def bashMarkBuiltin (readonly : Bool) (args : List String) : ShellM Unit := do
  let who := if readonly then "readonly" else "export"
  let (opts, names) := match args with
    | first :: rest =>
      if first.startsWith "-" && first.length > 1 && first != "--" then
        ((first.drop 1).toString.toList, rest)
      else if first == "--" then ([], rest) else ([], args)
    | [] => ([], [])
  match opts.find? fun c => !(['p', 'n', 'f', 'a', 'A'].contains c) with
  | some c =>
    complain (who ++ ": -" ++ String.singleton c ++ ": invalid option")
    writeTo 2 (who ++ ": usage: " ++ (if readonly then "readonly [-aAf] [name[=value] ...] or readonly -p"
      else "export [-fn] [name[=value] ...] or export -p") ++ "\n")
    setStatus 2
  | none =>
  let sh ← get
  if names.isEmpty || opts.contains 'p' then
    let marked := (if readonly then sh.readonly else sh.exported).mergeSort fun a b => decide (a ≤ b)
    let lines := marked.map fun n => (declarationLine sh n).getD
      ("declare -" ++ (if readonly then "r" else "x") ++ " " ++ n)
    writeTo 1 (String.join (lines.map (· ++ "\n")))
    setStatus 0
  else
    let mut status := 0
    for a in names do
      let key := String.ofList (a.toList.takeWhile fun c => c != '=' && c != '+')
      let afterKey := String.ofList (a.toList.drop key.length)
      if !isName key || !(afterKey.isEmpty || afterKey.startsWith "=" || afterKey.startsWith "+=") then
        complain (who ++ ": \x60" ++ a ++ "\x27: not a valid identifier")
        status := 1
        continue
      if afterKey.startsWith "=" || afterKey.startsWith "+=" then
        if (← get).readonly.contains key then
          complain (who ++ ": " ++ key ++ ": readonly variable")
          status := 1
          continue
        let append := afterKey.startsWith "+="
        let v := (afterKey.drop (if append then 2 else 1)).toString
        let old := ((← get).var? key).getD ""
        assign key (if append then old ++ v else v)
      if readonly then
        modify fun sh => { sh with readonly := if sh.readonly.contains key then sh.readonly else sh.readonly ++ [key] }
      else if opts.contains 'n' then
        modify fun sh => { sh with exported := sh.exported.filter (· != key) }
      else
        modify fun sh => { sh with exported := if sh.exported.contains key then sh.exported else sh.exported ++ [key] }
    setStatus status

/-- `shopt`: sets (`-s`) or unsets (`-u`) options of bash, or lists them with whether each is
on, as commands with `-p`; `-q` only tells by the status whether all named are on. -/
def shoptBuiltin (args : List String) : ShellM Unit := do
  let letters := (args.takeWhile (·.startsWith "-")).flatMap fun a => (a.drop 1).toString.toList
  let names := args.dropWhile (·.startsWith "-")
  match letters.find? fun c => !(['s', 'u', 'q', 'p', 'o'].contains c) with
  | some c =>
    complain ("shopt: -" ++ String.singleton c ++ ": invalid option")
    writeTo 2 "shopt: usage: shopt [-pqsu] [-o] [optname ...]\n"
    setStatus 2
  | none =>
  let sh ← get
  let setOn := letters.contains 's'
  let setOff := letters.contains 'u'
  let describe (n : String) (on : Bool) : String :=
    if letters.contains 'p' then "shopt " ++ (if on then "-s " else "-u ") ++ n ++ "\n"
    else padRight 15 n ++ "\t" ++ (if on then "on" else "off") ++ "\n"
  match names.find? fun n => !shoptDefaults.any (·.1 == n) with
  | some bad =>
    complain ("shopt: " ++ bad ++ ": invalid shell option name")
    setStatus 1
  | none =>
    if names.isEmpty then
      let listed := shoptDefaults.filter fun (n, _) =>
        let on := sh.shopts.contains n
        (!setOn || on) && (!setOff || !on)
      writeTo 1 (String.join (listed.map fun (n, _) => describe n (sh.shopts.contains n)))
      setStatus 0
    else if setOn || setOff then
      modify fun sh =>
        let shopts := if setOn then sh.shopts ++ names.filter (!sh.shopts.contains ·)
          else sh.shopts.filter (!names.contains ·)
        { sh with shopts }
      setStatus 0
    else
      if !letters.contains 'q' then
        writeTo 1 (String.join (names.map fun n => describe n (sh.shopts.contains n)))
      setStatus (if names.all sh.shopts.contains then 0 else 1)

/-- The lines of a text cut after each delimiter; the last line may lack one. -/
def cutLines (delim : Char) : List Char → List Char → List String
  | [], [] => []
  | [], cur => [String.ofList cur.reverse]
  | c :: rest, cur =>
    if c == delim then String.ofList (c :: cur).reverse :: cutLines delim rest []
    else cutLines delim rest (c :: cur)

/-- `mapfile` and `readarray`: the lines of standard input into an array (`MAPFILE` unless one is
named): `-t` drops the delimiter of each line, `-d` names the delimiter, `-n` reads at most that
many lines, `-s` skips lines first, `-O` starts at a subscript and keeps the elements before. -/
def mapfileBuiltin (who : String) (args : List String) : ShellM Unit := do
  let (opts, names) ← readBuiltinOptions who ['t'] ['d', 'n', 's', 'O', 'u', 'C', 'c'] args
  let value (c : Char) : Option String := (opts.find? (·.1 == c)).map (·.2)
  let delim := match value 'd' with
    | some d => (d.toList.head?).getD '\x00'
    | none => '\n'
  let count := ((value 'n').bind String.toNat?).getD 0
  let skip := ((value 's').bind String.toNat?).getD 0
  let origin := (value 'O').bind String.toNat?
  let name := names.headD "MAPFILE"
  let (text, _, _) ← currentInput
  let lines := cutLines delim text.toList []
  let taken := if count == 0 then lines.drop skip else (lines.drop skip).take count
  let used := (lines.take (skip + taken.length)).foldl (fun n l => n + l.length) 0
  leaveInput (String.ofList (text.toList.drop used))
  let items := taken.map fun l => if opts.any (·.1 == 't') && l.endsWith (String.singleton delim)
    then (l.dropEnd 1).toString else l
  let current ← get
  let start : ShellArray := match origin with
    | some _ => (current.array? name).getD {}
    | none => {}
  let base := origin.getD 0
  let arr := items.zipIdx.foldl (fun (acc : ShellArray) (v, i) => acc.set (toString (base + i)) v) start
  assignArray name arr
  setStatus 0

/-- `type` of bash: what each name is run as, in words, or with `-t` as one word of `alias`,
`keyword`, `function`, `builtin` or `file`, or with `-p` the path of a file. A name that is
none of them is reported, and the status is then 1. -/
def bashTypeBuiltin (args : List String) : ShellM Unit := do
  let letters := (args.takeWhile fun a => a.startsWith "-" && a.length > 1).flatMap fun a => (a.drop 1).toString.toList
  let names := args.dropWhile fun a => a.startsWith "-" && a.length > 1
  let mut status := 0
  for n in names do
    let sh ← get
    let aliased := if sh.shopts.contains "expand_aliases" then sh.aliases.find? (·.1 == n) else none
    let kind := commandKind sh n true
    let (word, text) : String × String := match aliased, kind with
      | some (_, v), _ => ("alias", n ++ " is aliased to \x60" ++ v ++ "\x27")
      | none, .keyword => ("keyword", n ++ " is a shell keyword")
      | none, .function => ("function", n ++ " is a function")
      | none, .special | none, .builtin => ("builtin", n ++ " is a shell builtin")
      | none, .program p tracked => ("file", if tracked then n ++ " is hashed (" ++ p ++ ")" else n ++ " is " ++ p)
      | none, .missing => ("", "")
    if word.isEmpty then
      if !letters.contains 't' && !letters.contains 'p' then complain ("type: " ++ n ++ ": not found")
      status := 1
    else if letters.contains 't' then writeTo 1 (word ++ "\n")
    else if letters.contains 'p' then
      match kind with
      | .program p _ => writeTo 1 (p ++ "\n")
      | _ => pure ()
    else writeTo 1 (text ++ "\n")
  setStatus status

/-- Reads a record of input for bash's `read`: its characters, each marked when a backslash kept
it from splitting, the input after it, and whether it ended at its delimiter (or after `limit`
characters). With no delimiter only the count ends it. A backslash before a line break joins
the lines unless `raw`; zero characters are dropped. -/
def readRecord (raw : Bool) (delim : Option Char) : Nat → Option Nat → List Char → List (Char × Bool) →
    List (Char × Bool) × List Char × Bool
  | 0, _, cs, acc => (acc.reverse, cs, false)
  | fuel + 1, limit, cs, acc =>
    let less := limit.map (· - 1)
    if limit == some 0 then (acc.reverse, cs, true)
    else
      match cs with
      | [] => (acc.reverse, [], false)
      | c :: rest =>
        if some c == delim then (acc.reverse, rest, true)
        else if c == '\x00' then readRecord raw delim fuel limit rest acc
        else if c == '\\' && !raw then
          match rest with
          | '\n' :: more => readRecord raw delim fuel limit more acc
          | d :: more => readRecord raw delim fuel less more ((d, true) :: acc)
          | [] => (acc.reverse, [], false)
        else readRecord raw delim fuel less rest ((c, false) :: acc)

/-- The usage line of bash's `read`. -/
def readUsage : String :=
  "read: usage: read [-ers] [-a array] [-d delim] [-i text] [-n nchars] [-N nchars] [-p prompt] [-t timeout] [-u fd] [name ...]"

/-- Reads the options of bash's `read`: the letters with their arguments and the names, or the
letter that is no option. -/
def readWordOptions : Nat → List String → List (Char × String) → Except Char (List (Char × String) × List String)
  | 0, args, acc => .ok (acc, args)
  | _ + 1, [], acc => .ok (acc, [])
  | fuel + 1, a :: rest, acc =>
    if a == "--" then .ok (acc, rest)
    else
      match a.toList with
      | '-' :: c :: more =>
        let withArg := ['a', 'd', 'i', 'n', 'N', 'p', 't', 'u']
        let plain := ['e', 'r', 's']
        let rec letters : Nat → List Char → List String → List (Char × String) →
            Except Char (List (Char × String) × List String)
          | 0, _, rest, acc => readWordOptions fuel rest acc
          | _ + 1, [], rest, acc => readWordOptions fuel rest acc
          | n + 1, d :: ds, rest, acc =>
            if withArg.contains d then
              if !ds.isEmpty then readWordOptions fuel rest (acc ++ [(d, String.ofList ds)])
              else
                match rest with
                | v :: after => readWordOptions fuel after (acc ++ [(d, v)])
                | [] => .error d
            else if plain.contains d then letters n ds rest (acc ++ [(d, "")])
            else .error d
        letters (more.length + 2) (c :: more) rest acc
      | _ => .ok (acc, a :: rest)

/-- `read` of bash: reads a record of standard input, up to a line break or the delimiter of
`-d`, or `-n` characters (`-N` exactly so many, whatever they are), and splits it at `IFS` into
the names, or into the array of `-a`; with neither the whole record goes to `REPLY`. The status
is 1 when the input ended first. -/
def bashReadBuiltin (args : List String) : ShellM Unit := do
  match readWordOptions (args.length + 1) args [] with
  | .error c =>
    complain ("read: -" ++ String.singleton c ++ ": invalid option")
    writeTo 2 (readUsage ++ "\n")
    setStatus 2
  | .ok (opts, names) =>
    let value (c : Char) : Option String := (opts.find? (·.1 == c)).map (·.2)
    match names.find? (!isName ·) with
    | some bad =>
      complain ("read: \x60" ++ bad ++ "\x27: not a valid identifier")
      setStatus 1
    | none =>
      let raw := opts.any (·.1 == 'r')
      let exact := (value 'N').bind String.toNat?
      let limit := match exact with
        | some n => some n
        | none => (value 'n').bind String.toNat?
      let delim : Option Char := if exact.isSome then none
        else match value 'd' with
          | some d => some ((d.toList.head?).getD '\x00')
          | none => some '\n'
      let (text, _, _) ← currentInput
      let (record, rest, complete) := readRecord raw delim (text.length + 1) limit text.toList []
      leaveInput (String.ofList rest)
      let sh ← get
      let ifs := sh.ifs.toList
      let isBlankSep (p : Char × Bool) : Bool := !p.2 && ifs.contains p.1 && isIfsBlank p.1
      match value 'a' with
      | some arrayName =>
        let pieces := record.map fun (c, kept) => Piece.text (String.singleton c) (!kept) kept
        let fields := (splitFields sh.ifs pieces).map Field.text
        assignArray arrayName (ShellArray.ofList fields)
      | none =>
        if names.isEmpty then assign "REPLY" (String.ofList (record.map (·.1)))
        else
          for (n, v) in readValues ifs names (record.dropWhile isBlankSep) do
            assign n v
      setStatus (if complete then 0 else 1)

/-! ## Signals -/

/-- The table of signals bash writes for `kill -l` and `trap -l`: each signal with a name as
`N) SIGNAME`, five to a line, separated by tabs. -/
def bashSignalTable : String :=
  let named := (List.range signalLimit).filterMap fun n =>
    if n == 0 then none else (shellSignalName true n).map fun name => (n, name)
  let cell (n : Nat) (name : String) : String :=
    (if n < 10 then " " else "") ++ toString n ++ ") SIG" ++ name
  let (text, column) := named.foldl (fun (acc : String × Nat) (n, name) =>
    let column := acc.2 + 1
    if column < 5 then (acc.1 ++ cell n name ++ "\t", column)
    else (acc.1 ++ cell n name ++ "\n", 0)) ("", 0)
  if column != 0 then text ++ "\n" else text

/-- The usage line of bash's `kill`. -/
def bashKillUsage : String :=
  "kill: usage: kill [-s sigspec | -n signum | -sigspec] pid | jobspec ... or kill -l [sigspec]\n"

/-- What `kill -l` writes for each of its words: the name of a signal number (an exit status
above 128 names the signal that caused it), or the number of a signal name; a word that is
neither is reported. The status is 1 when one was. -/
def bashListSignals (words : List String) : ShellM Unit := do
  if words.isEmpty then
    writeTo 1 bashSignalTable
    setStatus 0
  else
    let mut status := 0
    for w in words do
      match testInteger w with
      | .ok n =>
        let n := if n > 128 then n - 128 else n
        if n < 0 || n ≥ signalLimit then
          complain ("kill: " ++ w ++ ": invalid signal specification")
          status := 1
        else if n == 0 then writeTo 1 "EXIT\n"
        else
          match shellSignalName true n.toNat with
          | some name => writeTo 1 (name ++ "\n")
          | none => pure ()
      | .error _ =>
        match decodeSignal true w false with
        | some n => writeTo 1 (toString n ++ "\n")
        | none =>
          complain ("kill: " ++ w ++ ": invalid signal specification")
          status := 1
    setStatus status

/-- The words of bash's `kill` before its operands: whether to list, the signal (`none` when
the name given is no signal, with that name), and the operands. The first word that is not an
option starts the operands; only the first signal given counts. -/
def bashKillOptions : Nat → List String → Bool × Option (Option Nat × String) →
    Except String (Bool × Option (Option Nat × String) × List String)
  | 0, words, (listing, signal) => .ok (listing, signal, words)
  | _ + 1, [], (listing, signal) => .ok (listing, signal, [])
  | fuel + 1, w :: rest, (listing, signal) =>
    let decode (spec : String) : Option Nat × String :=
      (if spec == "0" then some 0 else decodeSignal true spec false, spec)
    let letterAt (i : Nat) : Char := (w.toList.drop i).headD ' '
    if w == "-l" || w == "-L" then bashKillOptions fuel rest (true, signal)
    else if w == "-s" || w == "-n" then
      match rest with
      | spec :: more => bashKillOptions fuel more (listing, some (decode spec))
      | [] => .error (w ++ ": option requires an argument")
    else if w.startsWith "-s" && (letterAt 2).isAlpha then
      bashKillOptions fuel rest (listing, some (decode (w.drop 2).toString))
    else if w.startsWith "-n" && (letterAt 2).isDigit then
      bashKillOptions fuel rest (listing, some (decode (w.drop 2).toString))
    else if w == "--" then .ok (listing, signal, rest)
    else if w.startsWith "-" && signal.isNone then
      bashKillOptions fuel rest (listing, some (decode (w.drop 1).toString))
    else .ok (listing, signal, w :: rest)

/-- Bash's `kill`: sends a signal (`TERM` unless one is named) to each process named, or with
`-l` lists signals. The only process left to signal is the shell's own; any other is gone. A
word that is no number is no process, and `%` names a job, of which there are none. The
status is 0 when some process got the signal. -/
def bashKillBuiltin (args : List String) : ShellM Unit := do
  if args.isEmpty then
    writeTo 2 bashKillUsage
    setStatus 2
  else
  match bashKillOptions (args.length + 1) args (false, none) with
  | .error m =>
    complain ("kill: " ++ m)
    setStatus 1
  | .ok (true, _, words) => bashListSignals words
  | .ok (false, signal, targets) =>
    match signal with
    | some (none, spec) =>
      complain ("kill: " ++ spec ++ ": invalid signal specification")
      setStatus 1
    | _ =>
    let signal := (signal.bind (·.1)).getD 15
    if targets.isEmpty then
      writeTo 2 bashKillUsage
      setStatus 2
    else
    let mut succeeded := false
    for t in targets do
      match testInteger t with
      | .ok n =>
        let sh ← get
        if n == Int.ofNat sh.pid || n == 0 then
          signalSelf signal
          succeeded := true
        else complain ("kill: (" ++ toString n ++ ") - No such process")
      | .error _ =>
        if t.startsWith "%" then complain ("kill: " ++ t ++ ": no such job")
        else complain ("kill: " ++ t ++ ": arguments must be process or job IDs")
    setStatus (if succeeded then 0 else 1)

/-- The name bash's trap listing gives a trap's key: `EXIT`, a signal with `SIG` before its
name, or `DEBUG`, `ERR` and `RETURN` as they are. -/
def bashTrapName (key : String) : String :=
  match key.toNat? with
  | some 0 => "EXIT"
  | some n => "SIG" ++ (shellSignalName true n).getD (toString n)
  | none => key

/-- The keys of bash's traps in the order it lists them: `EXIT`, the signals by number, then
`DEBUG`, `ERR` and `RETURN`. -/
def bashTrapKeys : List String :=
  (List.range signalLimit).map toString ++ ["DEBUG", "ERR", "RETURN"]

/-- The key of a trap named in bash: a pseudo-signal, or a signal by number or name. -/
def bashTrapKey (spec : String) : Option String :=
  let up := spec.toUpper
  if ["DEBUG", "ERR", "RETURN"].contains up then some up
  else (decodeSignal true spec true).map toString

/-- The lines of bash's trap listing for some keys: each trap set, as the command that sets
it again. -/
def bashTrapLines (sh : Proc) (keys : List String) : String :=
  String.join (keys.filterMap fun key =>
    (sh.traps.find? (·.1 == key)).map fun (_, action) =>
      "trap -- " ++ bashSingleQuote action ++ " " ++ bashTrapName key ++ "\n")

/-- Bash's `trap`: with an action and signals sets them (`-` or a lone signal resets, an
empty action ignores); alone or with `-p` lists traps; with `-l` lists the signals. A name
that is no signal is reported and the status is 1. -/
def bashTrapBuiltin (args : List String) : ShellM Unit := do
  let usage : ShellM Unit := do
    writeTo 2 "trap: usage: trap [-lp] [[arg] signal_spec ...]\n"
    setStatus 2
  let (opts, words) := match args with
    | w :: rest => if w == "--" then ([], rest)
      else if w.startsWith "-" && w.length > 1 && w != "-" then
        ((w.drop 1).toString.toList, rest)
      else ([], args)
    | [] => ([], [])
  match opts.find? fun c => c != 'l' && c != 'p' with
  | some c =>
    complain ("trap: -" ++ String.singleton c ++ ": invalid option")
    usage
  | none =>
  let sh ← get
  if opts.contains 'l' then
    writeTo 1 bashSignalTable
    setStatus 0
  else if opts.contains 'p' || words.isEmpty then
    if words.isEmpty then
      writeTo 1 (bashTrapLines sh bashTrapKeys)
      setStatus 0
    else
      let mut status := 0
      for w in words do
        match bashTrapKey w with
        | some key => writeTo 1 (bashTrapLines sh [key])
        | none =>
          complain ("trap: " ++ w ++ ": invalid signal specification")
          status := 1
      setStatus status
  else
    match words with
    | [] => usage
    | first :: rest =>
      let lone := (!first.isEmpty && first.all Char.isDigit && (bashTrapKey first).isSome) ||
        (first != "-" && rest.isEmpty && (bashTrapKey first).isSome)
      if !lone && rest.isEmpty then usage
      else
        let (action, signals) : Option String × List String :=
          if lone then (none, words)
          else if first == "-" then (none, rest)
          else (some first, rest)
        let mut status := 0
        for s in signals do
          match bashTrapKey s with
          | none =>
            complain ("trap: " ++ s ++ ": invalid signal specification")
            status := 1
          | some key =>
            modify fun sh => { sh with traps := (sh.traps.filter (·.1 != key)) ++
              (match action with
               | some a => [(key, a)]
               | none => []) }
        setStatus status

end Regress.Shell
