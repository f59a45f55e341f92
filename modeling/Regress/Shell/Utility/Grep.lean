import Regress.Shell.Pattern
import Regress.Shell.Utility.Basic
import Regress.Text.Regex

/-!
# grep

`grep` writes the lines of its inputs that match one of its patterns.

* Patterns are basic regular expressions, extended ones with `-E`, or fixed strings with `-F`;
  each `-e` and each line of a `-f` file is one, and without either the first operand is the
  list. A line is selected when some pattern matches in it (`-w`: as a whole word, `-x`: as the
  whole line), or with `-v` when none does.
* Selected lines are written with the file's name in front when there are several files
  (`-H`, `-h` decide otherwise), then their number (`-n`) and byte offset (`-b`), each followed
  by `:`; lines of context (`-A`, `-B`, `-C`) take `-` instead, and groups of lines that are not
  next to each other are parted by `--`.
* `-c` writes the count of selected lines, `-l` and `-L` the names of the files with and
  without one, `-o` only the matched parts, and `-q` nothing: it ends at the first selected
  line. `-m` stops after that many selected lines; on standard input from a file the rest then
  stays to be read.
* Groups of lines are parted by `--` once any context is asked for, even none, also from the
  groups of the files before. With `-o` lines of context show nothing, or their matches with
  `-v`.
* A directory is an error, is skipped (`-d skip`), or with `-r` is searched through, its entries
  in order of their names; without files `-r` searches the working directory and names what it
  finds from there. `--include`, `--exclude` and `--exclude-dir` leave files out by patterns.
* `--color=always` paints names, numbers, separators and matches with terminal escapes; `-T`
  puts a tab before the line and pads numbers to the width of the input's size.
* A file with a NUL byte is binary: its lines are not written, only that it matches.
* The exit status is 0 when a line was selected, 1 when none was, and 2 after any error, even
  with lines selected, except that `-q` ends with 0 at its first selected line.
-/

namespace Regress.Shell

/-- The options of `grep`, long names in the order it lists them when one is ambiguous. -/
def grepOptions : List OptSpec := [
  { key := "G", short := some 'G', long := some "basic-regexp" },
  { key := "E", short := some 'E', long := some "extended-regexp" },
  { key := "F", long := some "fixed-regexp" },
  { key := "F", short := some 'F', long := some "fixed-strings" },
  { key := "P", short := some 'P', long := some "perl-regexp" },
  { key := "A", short := some 'A', long := some "after-context", arg := .required },
  { key := "B", short := some 'B', long := some "before-context", arg := .required },
  { key := "binary-files", long := some "binary-files", arg := .required },
  { key := "b", short := some 'b', long := some "byte-offset" },
  { key := "C", short := some 'C', long := some "context", arg := .required },
  { key := "color", long := some "color", arg := .optional },
  { key := "color", long := some "colour", arg := .optional },
  { key := "c", short := some 'c', long := some "count" },
  { key := "D", short := some 'D', long := some "devices", arg := .required },
  { key := "d", short := some 'd', long := some "directories", arg := .required },
  { key := "exclude", long := some "exclude", arg := .required },
  { key := "exclude-from", long := some "exclude-from", arg := .required },
  { key := "exclude-dir", long := some "exclude-dir", arg := .required },
  { key := "f", short := some 'f', long := some "file", arg := .required },
  { key := "l", short := some 'l', long := some "files-with-matches" },
  { key := "L", short := some 'L', long := some "files-without-match" },
  { key := "group-separator", long := some "group-separator", arg := .required },
  { key := "help", long := some "help" },
  { key := "include", long := some "include", arg := .required },
  { key := "i", short := some 'i', long := some "ignore-case" },
  { key := "no-ignore-case", long := some "no-ignore-case" },
  { key := "T", short := some 'T', long := some "initial-tab" },
  { key := "label", long := some "label", arg := .required },
  { key := "line-buffered", long := some "line-buffered" },
  { key := "n", short := some 'n', long := some "line-number" },
  { key := "x", short := some 'x', long := some "line-regexp" },
  { key := "m", short := some 'm', long := some "max-count", arg := .required },
  { key := "h", short := some 'h', long := some "no-filename" },
  { key := "no-group-separator", long := some "no-group-separator" },
  { key := "s", short := some 's', long := some "no-messages" },
  { key := "Z", short := some 'Z', long := some "null" },
  { key := "z", short := some 'z', long := some "null-data" },
  { key := "o", short := some 'o', long := some "only-matching" },
  { key := "q", short := some 'q', long := some "quiet" },
  { key := "r", short := some 'r', long := some "recursive" },
  { key := "R", short := some 'R', long := some "dereference-recursive" },
  { key := "e", short := some 'e', long := some "regexp", arg := .required },
  { key := "v", short := some 'v', long := some "invert-match" },
  { key := "q", long := some "silent" },
  { key := "a", short := some 'a', long := some "text" },
  { key := "U", short := some 'U', long := some "binary" },
  { key := "u", short := some 'u', long := some "unix-byte-offsets" },
  { key := "V", short := some 'V', long := some "version" },
  { key := "H", short := some 'H', long := some "with-filename" },
  { key := "w", short := some 'w', long := some "word-regexp" },
  { key := "i", short := some 'y' },
  { key := "I", short := some 'I' },
  { key := "X", short := some 'X', arg := .required }] ++
  "0123456789".toList.map fun c => { key := String.singleton c, short := some c }

/-- How the lines of a search are selected. -/
structure LineTest where
  regex : Regex
  word : Bool
  whole : Bool
  invert : Bool

namespace LineTest

/-- Whether a character is part of a word. -/
def isWordChar (line : Array Char) (p : Nat) : Bool :=
  Regex.wordAt line p

/-- The first match in a line that starts at `start` or later and meets the word and line
conditions: of the matches at the leftmost start that has one, the longest that does. -/
def spanFrom (t : LineTest) (line : Array Char) (start : Nat) : Option (Nat × Nat) :=
  if !t.word && !t.whole then
    (t.regex.searchFrom line start).map fun (s, e, _) => (s, e)
  else
    (List.range' start (line.size + 1 - start)).findSome? fun s =>
      let ends := ((t.regex.matchesAt line s).map (·.1)).mergeSort (fun a b => decide (b ≤ a))
      (ends.find? fun e =>
        if t.whole then s == 0 && e == line.size
        else (s == 0 || !isWordChar line (s - 1)) && (e == line.size || !isWordChar line e) &&
          (e > s || line.size == 0)).map (s, ·)

/-- Whether a line is selected. -/
def selects (t : LineTest) (line : String) : Bool :=
  (t.spanFrom line.toList.toArray 0).isSome != t.invert

/-- The nonempty matched parts of a line, in order, as their start and text. -/
def parts (t : LineTest) (line : String) : List (Nat × String) :=
  let cs := line.toList.toArray
  let rec go : Nat → Nat → List (Nat × String) → List (Nat × String)
    | 0, _, acc => acc.reverse
    | fuel + 1, p, acc =>
      match t.spanFrom cs p with
      | some (s, e) =>
        if e == s then go fuel (s + 1) acc
        else go fuel e ((s, String.ofList ((cs.toList.drop s).take (e - s))) :: acc)
      | none => acc.reverse
  go (cs.size + 1) 0 []

end LineTest

/-- The rest of a pattern after a bracket expression, from just after its `[`: a first `]`
(after `^`) is one of its characters, and `[:`, `[=` and `[.` open items of their own. -/
def skipBracket (cs : List Char) : List Char :=
  let body := match cs with
    | '^' :: ']' :: r => r
    | '^' :: r => r
    | ']' :: r => r
    | r => r
  let rec go : Nat → List Char → List Char
    | 0, r => r
    | _ + 1, [] => []
    | n + 1, '[' :: k :: r =>
      if k == ':' || k == '=' || k == '.' then go n ((r.dropWhile (· != k)).drop 2)
      else go n (k :: r)
    | _ + 1, ']' :: r => r
    | n + 1, _ :: r => go n r
  go (body.length + 1) body

/-- Whether a pattern holds a bracket expression written like a character class without its
own brackets, as in `[:space:]`. -/
def confusingBracket : Nat → List Char → Bool
  | 0, _ => false
  | _ + 1, [] => false
  | fuel + 1, '[' :: rest =>
    let name := (rest.drop 1).takeWhile Char.isAlpha
    (rest.head? == some ':' && ((rest.drop (name.length + 1)).take 2 == [':', ']'])) ||
      confusingBracket fuel (skipBracket rest)
  | fuel + 1, '\\' :: _ :: rest => confusingBracket fuel rest
  | fuel + 1, _ :: rest => confusingBracket fuel rest

/-- The patterns of a search: each `-e`, each line of each `-f` file, else the first operand.
The words left are the files. -/
def grepPatterns (inv : Invocation) (opts : OptList) (operands : List String) :
    Except String (List String × List String) :=
  let given := opts.filter fun (k, _) => k == "e" || k == "f"
  if given.isEmpty then
    match operands with
    | p :: files => .ok (p.splitOn "\n", files)
    | [] => .error ""
  else
    let collect (acc : Except String (List String)) (kv : String × String) : Except String (List String) :=
      match acc with
      | .error e => .error e
      | .ok ps =>
        if kv.1 == "e" then .ok (ps ++ kv.2.splitOn "\n")
        else
          let text := if kv.2 == "-" then .ok inv.input else (inv.read kv.2).mapError fun e =>
            inv.message (kv.2 ++ ": " ++ errnoText e.errno)
          text.map fun t => ps ++ splitLines t
    (given.foldl collect (.ok [])).map (·, operands)

/-- The count that the digit options spell, the last run of them. -/
def digitContext (opts : OptList) : Option String :=
  let (runs, _) := opts.foldl (fun (acc : List String × Bool) (k, _) =>
    let isDigit := k.length == 1 && k.all Char.isDigit
    match acc with
    | (cur :: rest, true) => if isDigit then ((cur ++ k) :: rest, true) else (cur :: rest, false)
    | (runs, _) => if isDigit then (k :: runs, true) else (runs, false)) ([], false)
  runs.head?

/-- How `grep` writes what it finds in one input. `width` is the least width of line numbers and
offsets (with `-T`), and `context` tells whether any context was asked for, even none. -/
structure GrepOutput where
  withName : Bool
  number : Bool
  byteOffset : Bool
  nullName : Bool
  only : Bool
  before : Nat
  after : Nat
  context : Bool
  separator : Option String
  eol : Char
  color : Bool
  alignTabs : Bool
  width : Nat := 0

/-- What one input gave: the selected lines' count, the text written, how far it was read when
the search stopped early, and whether any input so far had a selected line, after which groups
of lines are parted. -/
structure Found where
  count : Nat := 0
  out : String := ""
  stoppedAt : Option Nat := none
  used : Bool := false

/-- A line of an input with where it starts, in characters and in bytes. -/
structure InputLine where
  text : String
  index : Nat
  start : Nat
  byteStart : Nat
  next : Nat

/-- The lines of a text, cut at `eol` (and at NUL bytes in a binary input). -/
def inputLines (text : String) (eol : Char) (zapNul : Bool) : Array InputLine :=
  let cut (c : Char) : Bool := c == eol || (zapNul && c == '\x00')
  let (lines, cur, start, byteStart, pos, _) :=
    text.toList.foldl (fun (acc : Array InputLine × List Char × Nat × Nat × Nat × Nat) c =>
      let (lines, cur, start, byteStart, pos, bytes) := acc
      if cut c then
        let line : InputLine := ⟨String.ofList cur.reverse, lines.size, start, byteStart, pos + 1⟩
        (lines.push line, [], pos + 1, bytes + 1, pos + 1, bytes + 1)
      else (lines, c :: cur, start, byteStart, pos + 1, bytes + 1))
      (#[], [], 0, 0, 0, 0)
  if cur.isEmpty then lines
  else
    lines.push ⟨String.ofList cur.reverse, lines.size, start, byteStart, pos⟩

/-- The escape that starts a color of the output. -/
def colorStart (code : String) : String :=
  "\x1b[" ++ code ++ "m\x1b[K"

/-- The escape that ends a color of the output. -/
def colorEnd : String :=
  "\x1b[m\x1b[K"

/-- A text in a color, when colors are on: names magenta, numbers green, separators cyan and
matches bold red. -/
def GrepOutput.paint (o : GrepOutput) (code text : String) : String :=
  if o.color then colorStart code ++ text ++ colorEnd else text

/-- The prefix of a written line: name, number and offset, each followed by `sep`, and with `-T`
a tab before a text that is not empty. -/
def GrepOutput.prefixOf (o : GrepOutput) (name : String) (line : InputLine) (offset : Nat)
    (sep : String) (nonempty : Bool) : String :=
  let padded (n : Nat) : String :=
    let s := toString n
    String.ofList (List.replicate (o.width - s.length) ' ') ++ s
  (if o.withName then o.paint "35" name ++ (if o.nullName then "\x00" else o.paint "36" sep) else "") ++
  (if o.number then o.paint "32" (padded (line.index + 1)) ++ o.paint "36" sep else "") ++
  (if o.byteOffset then o.paint "32" (padded offset) ++ o.paint "36" sep else "") ++
  (if o.alignTabs && (o.withName || o.number || o.byteOffset) && nonempty then "\t" else "")

/-- A line with the parts the test matches painted, when colors are on. -/
def highlighted (t : LineTest) (o : GrepOutput) (text : String) : String :=
  if !o.color then text
  else
    let cs := text.toList
    let (out, pos) := (t.parts text).foldl (fun (acc : String × Nat) (s, part) =>
      (acc.1 ++ String.ofList ((cs.drop acc.2).take (s - acc.2)) ++ o.paint "01;31" part,
        s + part.length)) ("", 0)
    out ++ String.ofList (cs.drop pos)

/-- State of a search through the lines of one input. -/
structure Scan where
  found : Found := {}
  lastShown : Option Nat := none
  afterLeft : Nat := 0
  done : Bool := false

/-- Writes a line of an input, selected (`:`) or of context (`-`). The matches in it are painted
when it is a line that matches; with `-o` only those are written, each on a line of its own. -/
def Scan.emit (t : LineTest) (o : GrepOutput) (name : String) (sc : Scan) (line : InputLine)
    (selected : Bool) : Scan :=
  let sep := if selected then ":" else "-"
  let matching := selected != t.invert
  let eol := String.singleton o.eol
  let text :=
    if o.only then
      if matching then
        String.join ((t.parts line.text).map fun (s, part) =>
          o.prefixOf name line (line.byteStart + s) sep true ++ o.paint "01;31" part ++ eol)
      else ""
    else
      o.prefixOf name line line.byteStart sep (!line.text.isEmpty) ++
        (if matching then highlighted t o line.text else line.text) ++ eol
  { sc with found := { sc.found with out := sc.found.out ++ text }, lastShown := some line.index }

/-- Searches one input's lines: `limit` is the most selected lines to take, `firstOnly` stops at
the first, and `quiet` writes no lines; `used` tells whether an earlier input had a selected
line. -/
def scanLines (t : LineTest) (o : GrepOutput) (name : String) (limit : Option Nat)
    (firstOnly quiet used : Bool) (lines : Array InputLine) : Found :=
  let emit := Scan.emit t o name
  let groupBreak (sc : Scan) (first : Nat) : Scan :=
    let adjacent := match sc.lastShown with
      | some last => first == last + 1
      | none => false
    match o.separator with
    | some sepText =>
      if o.context && sc.found.used && !adjacent then
        { sc with found := { sc.found with out := sc.found.out ++ o.paint "36" sepText ++ "\n" } }
      else sc
    | none => sc
  let step (sc : Scan) (line : InputLine) : Scan :=
    if sc.done then
      if sc.afterLeft > 0 && !quiet then { emit sc line false with afterLeft := sc.afterLeft - 1 }
      else sc
    else if t.selects line.text then
      let count := sc.found.count + 1
      let sc := { sc with found := { sc.found with count } }
      let sc :=
        if quiet then sc
        else
          let first := match sc.lastShown with
            | some last => max (last + 1) (line.index - o.before)
            | none => line.index - o.before
          let sc := groupBreak sc first
          let sc := (List.range' first (line.index - first)).foldl (fun sc i =>
            match lines[i]? with
            | some l => emit sc l false
            | none => sc) sc
          { emit sc line true with afterLeft := o.after }
      let sc := { sc with found := { sc.found with used := true } }
      let full := limit.any (count ≥ ·)
      if full then { sc with done := true, found := { sc.found with stoppedAt := some line.next } }
      else if firstOnly then { sc with done := true }
      else sc
    else if sc.afterLeft > 0 && !quiet then { emit sc line false with afterLeft := sc.afterLeft - 1 }
    else sc
  (lines.foldl step { found := { used } }).found

/-- Reads a count option of `grep`. -/
def grepCount (s : String) : Option Nat :=
  if !s.isEmpty && s.all Char.isDigit then s.toNat? else none

/-- A Perl-style pattern in the extended syntax: the classes `\d`, `\w`, `\s` and their
negations become bracket expressions, `(?:` a plain group, and lazy repeats greedy ones, which
select the same lines. -/
def perlAsExtended (p : String) : String :=
  let classFor (c : Char) (inBracket : Bool) : Option String :=
    let body := if c == 'd' || c == 'D' then "0-9" else if c == 'w' || c == 'W' then "[:alnum:]_"
      else "[:space:]"
    if !"dDwWsS".toList.contains c then none
    else if inBracket then some body
    else if c.isUpper then some ("[^" ++ body ++ "]") else some ("[" ++ body ++ "]")
  let rec go : Nat → List Char → Bool → String → String
    | 0, _, _, acc => acc
    | _ + 1, [], _, acc => acc
    | fuel + 1, c :: rest, inBracket, acc =>
      if c == '\\' then
        match rest with
        | d :: more =>
          match classFor d inBracket with
          | some t => go fuel more inBracket (acc ++ t)
          | none =>
            if d == 't' then go fuel more inBracket (acc.push '\t')
            else if d == 'n' then go fuel more inBracket (acc.push '\n')
            else go fuel more inBracket ((acc.push c).push d)
        | [] => acc.push c
      else if inBracket then go fuel rest (c != ']') (acc.push c)
      else if c == '[' then
        -- a leading ] or ^] belongs to the bracket
        match rest with
        | '^' :: ']' :: more => go fuel more true (acc ++ "[^]")
        | ']' :: more => go fuel more true (acc ++ "[]")
        | _ => go fuel rest true (acc.push c)
      else if c == '(' && rest.take 2 == ['?', ':'] then go fuel (rest.drop 2) false (acc.push c)
      else if (c == '*' || c == '+' || c == '?' || c == '}') && rest.head? == some '?' then
        go fuel (rest.drop 1) false (acc.push c)
      else go fuel rest false (acc.push c)
  go (p.length + 1) p.toList false ""

/-- The parts of a name after each `/` that no other `/` follows at once. -/
def slashTails : List Char → List (List Char)
  | [] => []
  | '/' :: rest =>
    (match rest with
      | '/' :: _ => []
      | _ => [rest]) ++ slashTails rest
  | _ :: rest => slashTails rest

/-- Whether a name is left out by patterns of `--include` (marked) and `--exclude`, or of
`--exclude-dir`: the last pattern that matches decides, and a name that none matches is left
out when some pattern is for inclusion. Below a directory a pattern matches the last part of a
path; on the command line it may match the name or any part of it after a `/`. -/
def leftOut (patterns : List (String × Bool)) (commandLine : Bool) (name : String) : Bool :=
  let fits (p : String) : Bool :=
    let elems := patternOf (p.length + 1) (p.toList.map (·, false))
    let cs := name.toList
    (cs :: (if commandLine then slashTails cs else [])).any (PatternElem.matchAll elems)
  match (patterns.filter fun (p, _) => fits p).getLast? with
  | some (_, included) => !included
  | none => patterns.any (·.2)

/-- An input of a search: standard input, a file with the name written for it and its text, or
a name that could not be read and why. -/
inductive GrepSource where
  | stdin
  | file (name text : String)
  | failure (name : String) (e : Errno)

/-- The words of `--directories` and what they ask for. -/
def directoryWords : List (String × String) :=
  [("read", "read"), ("recurse", "recurse"), ("skip", "skip")]

/-- `grep`: the lines of the inputs that match the patterns. -/
def grep (inv : Invocation) : Completion :=
  let short := (inv.name.splitOn "/").getLastD inv.name
  let usage := "Usage: " ++ short ++ " [OPTION]... PATTERNS [FILE]...\n" ++
    "Try \x27" ++ short ++ " --help\x27 for more information.\n"
  match parseOptions grepOptions false inv.args with
  | .error e => inv.finish 2 "" (e.message inv.name ++ usage)
  | .ok (opts, operands) =>
    let contextOf (k : String) : Except String Nat :=
      match opts.last? k with
      | some v =>
        match grepCount v with
        | some n => .ok n
        | none => .error (inv.message (v ++ ": invalid context length argument"))
      | none =>
        match opts.last? "C" with
        | some v =>
          match grepCount v with
          | some n => .ok n
          | none => .error (inv.message (v ++ ": invalid context length argument"))
        | none =>
          match digitContext opts with
          | some v => .ok (v.toNat?.getD 0)
          | none => .ok 0
    let limit : Except String (Option Nat) :=
      match opts.last? "m" with
      | some v =>
        match grepCount v with
        | some n => .ok (some n)
        | none => .error (inv.message "invalid max count")
      | none => .ok none
    let action : Except (String × Bool) String :=
      (opts.filter fun (k, _) => k == "d" || k == "r" || k == "R").foldl (fun acc (k, v) =>
        acc.bind fun _ =>
          if k == "d" then (matchArgument directoryWords v).mapError (v, ·) else .ok "recurse")
        (.ok "read")
    match action with
    | .error (v, amb) =>
      inv.finish 1 "" (inv.argumentMessage "--directories" v directoryWords amb ++ usage)
    | .ok action =>
    match contextOf "B", contextOf "A", limit, grepPatterns inv opts operands with
    | .error m, _, _, _ | _, .error m, _, _ | _, _, .error m, _ => inv.finish 2 "" m
    | _, _, _, .error m => inv.finish 2 "" (if m.isEmpty then usage else m)
    | .ok before, .ok after, .ok limit, .ok (patterns, files) =>
      let kind := (opts.filter fun (k, _) => k == "E" || k == "F" || k == "G" || k == "P").getLast?.map (·.1)
      let syn : RegexSyntax := { extended := kind == some "E" || kind == some "P", strict := false, lookahead := kind == some "P" }
      let perl := kind == some "P"
      let patterns := if perl then patterns.map perlAsExtended else patterns
      let fixed := kind == some "F"
      let ignoreCase := (opts.filter fun (k, _) => k == "i" || k == "no-ignore-case").getLast?.any (·.1 == "i")
      let parsed : Except String (List Regex) :=
        patterns.foldl (fun acc p =>
          acc.bind fun rs =>
            if fixed then .ok (rs ++ [Regex.literal p])
            else if confusingBracket (p.length + 1) p.toList then
              .error "character class syntax is [[:space:]], not [:space:]"
            else (Regex.parseWith syn p).map fun r => rs ++ [r]) (.ok [])
      match parsed with
      | .error m => inv.finish 2 "" (inv.message m)
      | .ok regexes =>
        let combined := match regexes with
          | [] => Regex.set false []
          | r :: rs => rs.foldl Regex.alt r
        let combined := if ignoreCase then combined.ignoringCase else combined
        let test : LineTest :=
          { regex := combined, word := opts.has "w", whole := opts.has "x", invert := opts.has "v" }
        let recursive := action == "recurse"
        -- a recursive search without files searches the working directory, naming what it finds
        -- from there
        let omitDot := recursive && files.isEmpty
        let files := if files.isEmpty then (if recursive then ["."] else ["-"]) else files
        let fileRules := opts.filterMap fun (k, v) =>
          if k == "include" then some (v, true) else if k == "exclude" then some (v, false) else none
        let dirRules := opts.filterMap fun (k, v) => if k == "exclude-dir" then some (v, false) else none
        let expand (f : String) : List GrepSource :=
          if f == "-" then [.stdin]
          else
            match inv.tree.stat inv.cwd f with
            | .error e => [.failure f e]
            | .ok (.file text _) => if leftOut fileRules true f then [] else [.file f text]
            | .ok .dir =>
              if action == "skip" then []
              else if action == "read" then [.failure f .isDir]
              else if !(omitDot && f == ".") && leftOut dirRules true f then []
              else
                match inv.tree.locate inv.cwd f with
                | .error e => [.failure f e]
                | .ok pl =>
                  let root := String.ofList (f.toList.reverse.dropWhile (· == '/')).reverse
                  (inv.tree.below pl.full).filterMap fun (rel, node) =>
                    match node with
                    | .file text _ =>
                      if rel.dropLast.any (leftOut dirRules false) || leftOut fileRules false (rel.getLastD "")
                      then none
                      else
                        let path := "/".intercalate rel
                        some (.file (if omitDot then path else root ++ "/" ++ path) text)
                    | .dir => none
        let sources := files.flatMap expand
        let throughDir := recursive && files.any (inv.tree.isDirAt inv.cwd)
        let withName :=
          (opts.filter fun (k, _) => k == "H" || k == "h").getLast?.map (·.1 == "H")
            |>.getD (files.length > 1 || throughDir)
        let color := (opts.last? "color").any fun w =>
          ["always", "yes", "force"].contains (lowerAscii w)
        let out : GrepOutput :=
          { withName, number := opts.has "n", byteOffset := opts.has "b", nullName := opts.has "Z"
            only := opts.has "o", before, after
            context := opts.has "A" || opts.has "B" || opts.has "C" || (digitContext opts).isSome
            separator :=
              if opts.has "no-group-separator" then none else some ((opts.last? "group-separator").getD "--")
            eol := if opts.has "z" then '\x00' else '\n'
            color, alignTabs := opts.has "T" }
        -- with -T, numbers take the width of the largest offset the input could have
        let widthFor (size : Option Nat) : Nat :=
          if !out.alignTabs then 0
          else
            match size with
            | some n => (toString (n + (if out.number then 1 else 0))).length
            | none => 19
        let stdinSize : Option Nat :=
          inv.inputFile.bind fun p =>
            match inv.tree.get? p with
            | some (.file text _) => some text.length
            | _ => none
        let quiet := opts.has "q"
        let listing := opts.has "l" || opts.has "L"
        let counting := opts.has "c"
        let silentErrors := opts.has "s"
        let asText := opts.has "a" || opts.last? "binary-files" == some "text"
        -- state: the writes, whether a line was selected, an error was seen, input left, stopped,
        -- and whether a group was written
        let step (acc : List Write × Bool × Bool × String × Bool × Bool) (src : GrepSource) :
            List Write × Bool × Bool × String × Bool × Bool :=
          let (ws, matched, failed, input, stop, used) := acc
          if stop then acc
          else
            let source : Except (String × Errno) (String × String × Option Nat) :=
              match src with
              | .stdin => .ok ((opts.last? "label").getD "(standard input)", input, stdinSize)
              | .file name text => .ok (name, text, some text.length)
              | .failure name e => .error (name, e)
            match source with
            | .error (name, e) =>
              (if silentErrors then ws else addErr ws (inv.message (name ++ ": " ++ errnoText e)),
                matched, true, input, stop, used)
            | .ok (name, text, size) =>
              let out := { out with width := widthFor size }
              let binary := !asText && text.toList.contains '\x00'
              let lines := inputLines text out.eol binary
              let firstOnly := quiet || listing || (binary && !counting)
              let found := scanLines test out name limit firstOnly
                (quiet || listing || counting || binary) used lines
              let nameEnd (sep : String) : String :=
                out.paint "35" name ++ (if out.nullName then "\x00" else sep)
              let written :=
                if quiet then ""
                else if counting && !listing then
                  (if out.withName then nameEnd (out.paint "36" ":") else "") ++
                    toString found.count ++ "\n"
                else if opts.has "l" then
                  if found.count > 0 then nameEnd "\n" else ""
                else if opts.has "L" then
                  if found.count == 0 then nameEnd "\n" else ""
                else found.out
              let binaryNote :=
                if binary && !quiet && !listing && !counting && found.count > 0 then
                  inv.message (name ++ ": binary file matches")
                else ""
              let left :=
                match src with
                | .stdin =>
                  match found.stoppedAt with
                  | some pos => if inv.seekable && !quiet then String.ofList (text.toList.drop pos) else ""
                  | none => ""
                | _ => input
              (addErr (addOut ws written) binaryNote, matched || found.count > 0, failed, left,
                quiet && found.count > 0, found.used)
        let (writes, matched, failed, input, _, _) :=
          sources.foldl step ([], false, false, inv.input, false, false)
        let status := if quiet && matched then 0 else if failed then 2 else if matched then 0 else 1
        { status, writes, tree := inv.tree, input }

end Regress.Shell
