import Regress.Shell.Utility.Basic
import Regress.Shell.Utility.Sed.Script

/-!
# sed

`sed` edits its input line by line. Each cycle reads a line into the pattern space, runs the
script's commands that select it, and writes the pattern space unless `-n` was given; text
queued by `a` and `r` follows it.

* A range selects from a line its first address matches to the line its end matches (a line
  number at or before the first line makes the range that one line).
* `n` and `N` at the end of the input end the script as its end would; `q` writes the pattern
  space and stops, `Q` stops at once.
* A line without its break at the end of the input is written without one, and anything
  written after it starts with the break it lacked.
* A substitution replaces the leftmost longest match, or every match with `g`; an empty match
  right after the previous match is not replaced.
* With `-z` the records end with the zero character instead of a line break, and what joins
  records in the pattern space and the hold space, or ends them when written, is that
  character too.
* Files that cannot be read are reported and skipped, and make the exit status 2. The output
  is held until `sed` ends while its messages are written at once, so they come first.
-/

namespace Regress.Shell

/-- A line of input: its text, whether a line break ended it, and the file it came from. -/
structure SedLine where
  text : String
  newline : Bool
  file : String

/-- Where a range stands: not started, or started and ending at a line number if known. -/
inductive RangeState where
  | idle
  | active (endLine : Option Nat)
  deriving Inhabited

/-- How a run of the script ended for a cycle. -/
inductive CycleEnd where
  | finished
  | deleted
  | restart
  | quit (code : Nat) (silent : Bool)
  deriving Inhabited

/-- The state of an editing run. -/
structure SedState where
  space : String := ""
  holdSpace : String := ""
  lineNo : Nat := 0
  newline : Bool := true
  file : String := "-"
  pending : List SedLine := []
  out : String := ""
  err : String := ""
  missingBreak : Bool := false
  appended : List String := []
  substituted : Bool := false
  ranges : Array RangeState := #[]
  lastRegex : Option Regex := none
  tree : FileTree
  cwd : List String
  quiet : Bool := false
  lineWrap : Nat := 70
  /-- What ends a record: a line break, or the zero character under `-z`. -/
  delimiter : String := "\n"
  /-- How many lines `R` has taken from each file it reads. -/
  linesTaken : List (String × Nat) := []
  deriving Inhabited

namespace SedState

/-- Writes text to the output, after the break a line written before it lacked. -/
def write (st : SedState) (text : String) : SedState :=
  if text.isEmpty then st
  else { st with out := st.out ++ (if st.missingBreak then st.delimiter else "") ++ text, missingBreak := false }

/-- Writes the pattern space as a line, without its break when the input line had none. -/
def writeSpace (st : SedState) (text : String) : SedState :=
  let st := st.write (text ++ (if st.newline then st.delimiter else ""))
  if st.newline then st else { st with missingBreak := true }

/-- Writes text of `a`, `i`, `c`, `r` or `R` as it is, after the break a line written before it
lacked, even when the text is empty. -/
def writeText (st : SedState) (text : String) : SedState :=
  { st with out := st.out ++ (if st.missingBreak then st.delimiter else "") ++ text, missingBreak := false }

/-- Writes the queued text of `a`, `r` and `R`. -/
def flushAppended (st : SedState) : SedState :=
  if st.appended.isEmpty then st
  else ({ st with appended := [] } : SedState).writeText (String.join st.appended)

/-- Whether the current line is the last of the input. -/
def atLast (st : SedState) : Bool :=
  st.pending.isEmpty

/-- Reads the next line into the pattern space, replacing or appending. -/
def readNext (st : SedState) (append : Bool) : Option SedState :=
  match st.pending with
  | [] => none
  | l :: rest =>
    some { st with
      space := if append then st.space ++ st.delimiter ++ l.text else l.text
      lineNo := st.lineNo + 1, newline := l.newline, file := l.file, pending := rest }

/-- Appends a line to a file of the tree (or to an output stream). -/
def writeFileLine (st : SedState) (name text : String) : SedState :=
  if name == "/dev/stdout" then st.write text
  else if name == "/dev/stderr" then { st with err := st.err ++ text }
  else
    let old := (st.tree.readFile st.cwd name).toOption.getD ""
    match st.tree.writeFile st.cwd name (old ++ text) with
    | .ok t => { st with tree := t }
    | .error _ => st

end SedState

/-- Whether an address matches the current line, and the state with the last regular
expression used. -/
def SedAddress.test (a : SedAddress) (st : SedState) : Bool × SedState :=
  match a with
  | .line n => (st.lineNo == n, st)
  | .last => (st.atLast, st)
  | .step first every =>
    (if every == 0 then st.lineNo == first
     else st.lineNo ≥ first && (st.lineNo - first) % every == 0, st)
  | .zero => (false, st)
  | .pattern r =>
    match r.orElse fun _ => st.lastRegex with
    | some rx => (rx.found st.space, { st with lastRegex := some rx })
    | none => (false, st)

/-- Whether the command at `i` selects the current line, and the state after its range moved. -/
def SedCommand.selects (c : SedCommand) (i : Nat) (st : SedState) : Bool × SedState :=
  let (hit, st) : Bool × SedState := match c.first, c.last with
    | none, _ => (true, st)
    | some a, none => a.test st
    | some a, some e =>
      let setRange (r : RangeState) (st : SedState) : SedState :=
        { st with ranges := st.ranges.set! i r }
      match st.ranges[i]?.getD .idle with
      | .idle =>
        let (m, st) := a.test st
        if !m then (false, st)
        else
          match e with
          | .following n => (true, if n == 0 then st else setRange (.active (some (st.lineNo + n))) st)
          | .multiple n =>
            if n == 0 || st.lineNo % n == 0 then (true, st)
            else (true, setRange (.active (some ((st.lineNo / n + 1) * n))) st)
          | .address (.line m) => (true, if m ≤ st.lineNo then st else setRange (.active (some m)) st)
          | .address _ => (true, setRange (.active none) st)
      | .active (some endLine) =>
        let st := if endLine ≤ st.lineNo then setRange .idle st else st
        (st.lineNo ≤ endLine, st)
      | .active none =>
        match e with
        | .address a2 =>
          let (m, st) := a2.test st
          (true, if m then setRange .idle st else st)
        | _ => (true, setRange .idle st)
  (hit != c.negated, st)

/-- Changes letters' case as a replacement asks: `mode` for all letters until changed, `once`
for the next letter only. -/
structure CaseChange where
  mode : Option Bool := none
  once : Option Bool := none

/-- Applies a case change to text: the text and what is left of the change. -/
def CaseChange.apply (cc : CaseChange) (s : String) : String × CaseChange :=
  s.toList.foldl (fun (acc : String × CaseChange) c =>
    let (out, cc) := acc
    let conv (up : Bool) : Char := if up then c.toUpper else c.toLower
    match cc.once with
    | some up => (out.push (conv up), { cc with once := none })
    | none =>
      match cc.mode with
      | some up => (out.push (conv up), cc)
      | none => (out.push c, cc)) ("", cc)

/-- The replacement text for a match from `s` to `e` with its captures. -/
def replacementFor (input : Array Char) (s e : Nat) (caps : Regex.Captures)
    (parts : List ReplacementPart) : String :=
  let slice (a b : Nat) : String := String.ofList ((input.toList.drop a).take (b - a))
  (parts.foldl (fun (acc : String × CaseChange) p =>
    let (out, cc) := acc
    match p with
    | .text t => let (t, cc) := cc.apply t; (out ++ t, cc)
    | .group n =>
      let text := if n == 0 then slice s e
        else match Regex.captured caps n with
          | some (a, b) => slice a b
          | none => ""
      let (t, cc) := cc.apply text
      (out ++ t, cc)
    | .caseShift c =>
      if c == 'U' then (out, { mode := some true }) else if c == 'L' then (out, { mode := some false })
      else if c == 'E' then (out, {})
      else if c == 'u' then (out, { cc with once := some true })
      else (out, { cc with once := some false })) ("", {})).1

/-- Applies a substitution to a text: the new text when something was replaced. -/
def substituteText (r : Regex) (sub : Substitution) (text : String) : Option String :=
  let input := text.toList.toArray
  let rec go : Nat → Nat → Nat → Option Nat → String → Bool → String × Bool
    | 0, pos, _, _, acc, done => (acc ++ String.ofList (input.toList.drop pos), done)
    | fuel + 1, pos, count, prevEnd, acc, done =>
      let rest := String.ofList (input.toList.drop pos)
      if pos > input.size then (acc, done)
      else
        match r.searchFrom input pos with
        | none => (acc ++ rest, done)
        | some (s, e, caps) =>
          let before := String.ofList ((input.toList.drop pos).take (s - pos))
          if e == s && prevEnd == some s then
            -- an empty match right after the previous one is passed over
            if s < input.size then
              go fuel (s + 1) count prevEnd (acc ++ before ++ String.ofList ((input.toList.drop s).take 1)) done
            else (acc ++ before, done)
          else
            let count := count + 1
            let wanted := count ≥ sub.occurrence
            let piece := if wanted then replacementFor input s e caps sub.replacement
              else String.ofList ((input.toList.drop s).take (e - s))
            let acc := acc ++ before ++ piece
            if wanted && !sub.global then (acc ++ String.ofList (input.toList.drop e), true)
            else if e == s then
              if s < input.size then
                go fuel (s + 1) count (some e) (acc ++ String.ofList ((input.toList.drop s).take 1)) (done || wanted)
              else (acc, done || wanted)
            else go fuel e count (some e) acc (done || wanted)
  let (result, done) := go (input.size + 2) 0 0 none "" false
  if done then some result else none

/-- The pattern space as `l` shows it: escapes for unprintable characters, lines folded at the
width, and `$` at the end. -/
def listText (width : Nat) (text : String) : String :=
  let escape (c : Char) : String :=
    if c == '\\' then "\\\\" else if c == '\x07' then "\\a" else if c == '\x08' then "\\b"
    else if c == '\x0c' then "\\f" else if c == '\n' then "\\n" else if c == '\r' then "\\r"
    else if c == '\t' then "\\t" else if c == '\x0b' then "\\v"
    else if c.toNat ≥ 32 && c.toNat < 127 then String.singleton c
    else
      let n := c.toNat
      ("\\" ++ String.singleton (Char.ofNat (48 + n / 64)) ++ String.singleton (Char.ofNat (48 + n / 8 % 8)) ++
          String.singleton (Char.ofNat (48 + n % 8)))
  let (out, _) := text.toList.foldl (fun (acc : String × Nat) c =>
    let (out, used) := acc
    let e := escape c
    if width > 1 && used + e.length > width - 1 then (out ++ "\\\n" ++ e, e.length)
    else (out ++ e, used + e.length)) ("", 0)
  out ++ "$\n"

/-- Runs the script from the command at `pc` on the current pattern space. -/
def runFrom (prog : Array SedCommand) (ends : Array Nat) : Nat → Nat → SedState → SedState × CycleEnd
  | 0, _, st => (st, .finished)
  | fuel + 1, pc, st =>
    match prog[pc]? with
    | none => (st, .finished)
    | some c =>
      let (hit, st) := c.selects pc st
      let next (st : SedState) := runFrom prog ends fuel (pc + 1) st
      let jump (target : Option String) (st : SedState) :=
        match target with
        | none => (st, CycleEnd.finished)
        | some name =>
          match prog.toList.findIdx? fun d => match d.op with
              | .label n => n == name
              | _ => false with
          | some i => runFrom prog ends fuel i st
          | none => (st, .finished)
      if !hit then
        match c.op with
        | .blockStart => runFrom prog ends fuel ((ends[pc]?.getD prog.size) + 1) st
        | _ => next st
      else
        match c.op with
        | .blockStart | .blockEnd | .label _ | .nothing => next st
        | .print => next (st.writeSpace st.space)
        | .printFirst =>
          let first := (st.space.splitOn st.delimiter).headD ""
          next (st.write (first ++ st.delimiter))
        | .delete => (st, .deleted)
        | .deleteFirst =>
          match st.space.splitOn st.delimiter with
          | _ :: second :: more => ({ st with space := st.delimiter.intercalate (second :: more) }, .restart)
          | _ => (st, .deleted)
        | .next =>
          if st.atLast then (st, .finished)
          else
            let st := if st.quiet then st else st.writeSpace st.space
            let st := st.flushAppended
            match st.readNext false with
            | some st => next st
            | none => (st, .finished)
        | .appendNext =>
          if st.atLast then (st, .finished)
          else
            let st := st.flushAppended
            match st.readNext true with
            | some st => next st
            | none => (st, .finished)
        | .hold => next { st with holdSpace := st.space }
        | .holdAppend => next { st with holdSpace := st.holdSpace ++ st.delimiter ++ st.space }
        | .fetch => next { st with space := st.holdSpace }
        | .fetchAppend => next { st with space := st.space ++ st.delimiter ++ st.holdSpace }
        | .exchange => next { st with space := st.holdSpace, holdSpace := st.space }
        | .lineNumber => next (st.write (toString st.lineNo ++ "\n"))
        | .append t => next { st with appended := st.appended ++ [t] }
        | .insert t => next (st.writeText t)
        | .change t =>
          let stillInRange := match st.ranges[pc]? with
            | some (.active _) => !c.negated
            | _ => false
          ((if stillInRange then st else st.writeText t), .deleted)
        | .quit code silent => (st, .quit code silent)
        | .substitute sub =>
          match sub.regex.orElse fun _ => st.lastRegex with
          | none => next st
          | some r =>
            let st := { st with lastRegex := some r }
            match substituteText r sub st.space with
            | none => next st
            | some text =>
              let st := { st with space := text, substituted := true }
              let st := if sub.print then st.writeSpace text else st
              let st := match sub.write with
                | some name => st.writeFileLine name (text ++ st.delimiter)
                | none => st
              next st
        | .transliterate pairs =>
          next { st with space := st.space.map fun ch => ((pairs.find? (·.1 == ch)).map (·.2)).getD ch }
        | .branch kind target =>
          match kind with
          | .always => jump target st
          | .substituted =>
            if st.substituted then jump target { st with substituted := false } else next st
          | .notSubstituted =>
            if st.substituted then next { st with substituted := false } else jump target st
        | .readFile name =>
          let text := (st.tree.readFile st.cwd name).toOption.getD ""
          next { st with appended := st.appended ++ [text] }
        | .readLine name =>
          match st.tree.readFile st.cwd name with
          | .ok text =>
            let taken := ((st.linesTaken.find? (·.1 == name)).map (·.2)).getD 0
            let parts := text.splitOn st.delimiter
            match parts.drop taken with
            | [] | [""] => next st
            | [last] => next { st with appended := st.appended ++ [last]
                                       linesTaken := (name, taken + 1) :: st.linesTaken }
            | line :: _ => next { st with appended := st.appended ++ [line ++ st.delimiter]
                                          linesTaken := (name, taken + 1) :: st.linesTaken }
          | .error _ => next st
        | .writeFile name firstLine =>
          let text := if firstLine then (st.space.splitOn st.delimiter).headD "" else st.space
          next (st.writeFileLine name (text ++ st.delimiter))
        | .zap => next { st with space := "" }
        | .fileName => next (st.write (st.file ++ st.delimiter))
        | .list width => next (st.write (listText (width.getD st.lineWrap) st.space))

/-- Runs cycles until the input ends or the script quits: the state and the exit code `q`
gave, if it did. -/
def runCycles (prog : Array SedCommand) (ends : Array Nat) (steps : Nat) :
    Nat → Bool → SedState → SedState × Option Nat
  | 0, _, st => (st, none)
  | fuel + 1, reuse, st =>
    let start : Option SedState :=
      if reuse then some st
      else (st.readNext false).map fun st => { st with substituted := false }
    match start with
    | none => (st, none)
    | some st =>
      let (st, ending) := runFrom prog ends steps 0 st
      match ending with
      | .finished =>
        let st := if st.quiet then st else st.writeSpace st.space
        runCycles prog ends steps fuel false st.flushAppended
      | .deleted => runCycles prog ends steps fuel false st.flushAppended
      | .restart => runCycles prog ends steps fuel true st.flushAppended
      | .quit code silent =>
        if silent then (st, some code)
        else
          let st := if st.quiet then st else st.writeSpace st.space
          (st.flushAppended, some code)

/-- The records of an input text, each ended by the delimiter but perhaps the last. -/
def sedLines (delimiter file text : String) : List SedLine :=
  let parts := text.splitOn delimiter
  let n := parts.length
  parts.zipIdx.filterMap fun (p, i) =>
    if i + 1 < n then some { text := p, newline := true, file }
    else if p.isEmpty then none
    else some { text := p, newline := false, file }

/-- The options of `sed`, long names in the order it lists them when one is ambiguous. -/
def sedOptions : List OptSpec := [
  { key := "b", short := some 'b', long := some "binary" },
  { key := "E", short := some 'r', long := some "regexp-extended" },
  { key := "debug", long := some "debug" },
  { key := "i", short := some 'i', long := some "in-place", arg := .optional },
  { key := "e", short := some 'e', long := some "expression", arg := .required },
  { key := "f", short := some 'f', long := some "file", arg := .required },
  { key := "l", short := some 'l', long := some "line-length", arg := .required },
  { key := "z", short := some 'z', long := some "null-data" },
  { key := "z", long := some "zero-terminated" },
  { key := "n", short := some 'n', long := some "quiet" },
  { key := "posix", long := some "posix" },
  { key := "n", long := some "silent" },
  { key := "sandbox", long := some "sandbox" },
  { key := "s", short := some 's', long := some "separate" },
  { key := "u", short := some 'u', long := some "unbuffered" },
  { key := "version", long := some "version" },
  { key := "help", long := some "help" },
  { key := "follow-symlinks", long := some "follow-symlinks" },
  { key := "E", short := some 'E' }]

/-- The usage text of `sed`. -/
def sedUsage (name : String) : String :=
  "Usage: " ++ name ++ " [OPTION]... \x7bscript-only-if-no-other-script\x7d [input-file]...\n\n" ++
  "  -n, --quiet, --silent\n" ++
  "                 suppress automatic printing of pattern space\n" ++
  "      --debug\n" ++
  "                 annotate program execution\n" ++
  "  -e script, --expression=script\n" ++
  "                 add the script to the commands to be executed\n" ++
  "  -f script-file, --file=script-file\n" ++
  "                 add the contents of script-file to the commands to be executed\n" ++
  "  --follow-symlinks\n" ++
  "                 follow symlinks when processing in place\n" ++
  "  -i[SUFFIX], --in-place[=SUFFIX]\n" ++
  "                 edit files in place (makes backup if SUFFIX supplied)\n" ++
  "  -l N, --line-length=N\n" ++
  "                 specify the desired line-wrap length for the \x60l\x27 command\n" ++
  "  --posix\n" ++
  "                 disable all GNU extensions.\n" ++
  "  -E, -r, --regexp-extended\n" ++
  "                 use extended regular expressions in the script\n" ++
  "                 (for portability use POSIX -E).\n" ++
  "  -s, --separate\n" ++
  "                 consider files as separate rather than as a single,\n" ++
  "                 continuous long stream.\n" ++
  "      --sandbox\n" ++
  "                 operate in sandbox mode (disable e/r/w commands).\n" ++
  "  -u, --unbuffered\n" ++
  "                 load minimal amounts of data from the input files and flush\n" ++
  "                 the output buffers more often\n" ++
  "  -z, --null-data\n" ++
  "                 separate lines by NUL characters\n" ++
  "      --help     display this help and exit\n" ++
  "      --version  output version information and exit\n\n" ++
  "If no -e, --expression, -f, or --file option is given, then the first\n" ++
  "non-option argument is taken as the sed script to interpret.  All\n" ++
  "remaining arguments are names of input files; if no input files are\n" ++
  "specified, then the standard input is read.\n\n" ++
  "GNU sed home page: <https://www.gnu.org/software/sed/>.\n" ++
  "General help using GNU software: <https://www.gnu.org/gethelp/>.\n"

/-- The pieces of a script: each `-e` and `-f` in order, with how a fault in it is located;
else the first operand. The operands left are the inputs. -/
def scriptPieces (inv : Invocation) (opts : OptList) (operands : List String) :
    Except String (List (String × (Nat → Nat → String)) × List String) :=
  let given := opts.filter fun (k, _) => k == "e" || k == "f"
  if given.isEmpty then
    match operands with
    | s :: files => .ok ([(s, fun (_ pos : Nat) => "-e expression #1, char " ++ toString pos)], files)
    | [] => .error ""
  else
    let (pieces, _, failure) := given.foldl (fun (acc : List (String × (Nat → Nat → String)) × Nat × Option String) (k, v) =>
      let (ps, count, failure) := acc
      if failure.isSome then acc
      else if k == "e" then
        let n := count + 1
        (ps ++ [(v, fun (_ pos : Nat) => "-e expression #" ++ toString n ++ ", char " ++ toString pos)], n, none)
      else
        let text := if v == "-" then some inv.input else (inv.read v).toOption
        match text with
        | some t =>
          let t := if t.endsWith "\n" then String.ofList (t.toList.dropLast) else t
          (ps ++ [(t, fun (line _ : Nat) => "file " ++ v ++ " line " ++ toString line)], count, none)
        | none => (ps, count, some (inv.message ("couldn\x27t open file " ++ v ++ ": No such file or directory")))) ([], 0, none)
    match failure with
    | some m => .error m
    | none => .ok (pieces, operands)

/-- Whether a piece of script ends with a backslash that escapes the line break after it. -/
def endsEscaped (text : String) : Bool :=
  (text.toList.reverse.takeWhile (· == '\\')).length % 2 == 1

/-- Joins a piece that ends with an escaped line break to the piece after it, so that the text
of `a`, `i` or `c` goes on in the next `-e`. -/
def joinContinued : Nat → List (String × (Nat → Nat → String)) → List (String × (Nat → Nat → String))
  | 0, ps => ps
  | _ + 1, [] => []
  | _ + 1, [p] => [p]
  | fuel + 1, p :: q :: rest =>
    if endsEscaped p.1 then joinContinued fuel ((p.1 ++ "\n" ++ q.1, p.2) :: rest)
    else p :: joinContinued fuel (q :: rest)

/-- Reads all pieces of a script into one program, or the message for the first fault. -/
def compileScript (name : String) (syn : RegexSyntax) (pieces : List (String × (Nat → Nat → String))) :
    Except String (Array SedCommand) :=
  let pieces := joinContinued (pieces.length + 1) pieces
  let step (acc : Except String (Array SedCommand × Nat × String)) (piece : String × (Nat → Nat → String)) :
      Except String (Array SedCommand × Nat × String) :=
    acc.bind fun (prog, depth, _) =>
      let cs := piece.1.toList
      match readCommands syn (cs.length + 1) cs prog depth with
      | .ok (prog, depth) => .ok (prog, depth, piece.2 1 0)
      | .error f =>
        let pos := match f.rest with
          | some rest => cs.length - rest.length
          | none => 0
        let line := ((cs.take pos).filter (· == '\n')).length + 1
        .error (name ++ ": " ++ piece.2 line pos ++ ": " ++ f.message ++ "\n")
  match pieces.foldl step (.ok (#[], 0, "-e expression #1, char 0")) with
  | .error m => .error m
  | .ok (prog, depth, lastPlace) =>
    if depth > 0 then .error (name ++ ": " ++ lastPlace ++ ": unmatched \x60\x7b\x27\n")
    else
      match missingLabels prog with
      | l :: _ => .error (name ++ ": can\x27t find label for jump to \x60" ++ l ++ "\x27\n")
      | [] => .ok prog

/-- The name of the copy `sed -i` keeps of a file: the suffix added to its name, or, when the
suffix has a `*`, the suffix with each `*` replaced by the file's base name. -/
def backupName (path suffix : String) : String :=
  if suffix.contains '*' then
    let parts := path.splitOn "/"
    let base := parts.getLast?.getD path
    let named := suffix.replace "*" base
    if named.contains '/' then named
    else "/".intercalate (parts.dropLast ++ [named])
  else path ++ suffix

/-- Runs the script on each input as a stream of its own, as `-s` and `-i` ask: line numbers and
ranges start again with each input, the hold space carries over. With `-i` (whose suffix is
`inPlace`) each file gets what the script writes, and a suffix keeps a copy of it. -/
def separateRun (inv : Invocation) (prog : Array SedCommand) (ends : Array Nat)
    (ranges : Array RangeState) (steps : Nat) (inPlace : Option String) (files : List String)
    (start : SedState) : Completion :=
  let (st, status, input, _) := files.foldl (fun (acc : SedState × Nat × String × Bool) f =>
    let (st, status, input, stopped) := acc
    if stopped then acc
    else
      let text : Except String (String × String) :=
        if f == "-" && inPlace.isNone then .ok (input, "")
        else
          match st.tree.stat inv.cwd f with
          | .ok (.file t _) => .ok (t, input)
          | .ok .dir =>
            if inPlace.isSome then .error ("couldn\x27t edit " ++ f ++ ": not a regular file")
            else .error ("read error on " ++ f ++ ": " ++ errnoText .isDir)
          | .error e => .error ("can\x27t read " ++ f ++ ": " ++ errnoText e)
      match text with
      | .error m =>
        let fatal := !m.startsWith "can"
        ({ st with err := st.err ++ inv.message m }, if fatal then 4 else 2, input, fatal)
      | .ok (t, input) =>
        let lines := sedLines st.delimiter f t
        let saved := st.out
        let st := { st with pending := lines, lineNo := 0, ranges := ranges
                            out := if inPlace.isSome then "" else st.out
                            missingBreak := if inPlace.isSome then false else st.missingBreak }
        let (st, code) := runCycles prog ends steps (2 * lines.length + 4) false st
        let st := match inPlace with
          | some suffix =>
            let tree := if suffix.isEmpty then st.tree
              else ((st.tree.writeFile inv.cwd (backupName f suffix) t).toOption).getD st.tree
            let tree := ((tree.writeFile inv.cwd f st.out).toOption).getD tree
            { st with tree, out := saved, missingBreak := false }
          | none => st
        match code with
        | some c => (st, c, input, true)
        | none => (st, status, input, false)) (start, 0, inv.input, false)
  { status, writes := errThenOut st.err st.out, tree := st.tree, input }

/-- `sed`: edits its inputs with a script. -/
def sed (inv : Invocation) : Completion :=
  match parseOptions sedOptions false inv.args with
  | .error e => inv.finish 1 "" (e.message inv.name ++ sedUsage inv.name)
  | .ok (opts, operands) =>
    if opts.has "help" then inv.finish 0 (sedUsage inv.name) ""
    else
    match scriptPieces inv opts operands with
    | .error m => inv.finish 1 "" (if m.isEmpty then sedUsage inv.name else m)
    | .ok (pieces, files) =>
      let syn : RegexSyntax := { extended := opts.has "E", strict := true, lookahead := false }
      match compileScript inv.name syn pieces with
      | .error m => inv.finish 1 "" m
      | .ok prog =>
        let quietScript := match pieces.head? with
          | some (text, _) => text == "#n" || text.startsWith "#n\n"
          | none => false
        let ends := blockEnds prog
        let ranges : Array RangeState := prog.map fun c => match c.first with
          | some .zero => .active none
          | _ => .idle
        let files := if files.isEmpty then ["-"] else files
        let delimiter := if opts.has "z" then "\x00" else "\n"
        -- files written by `w` start empty
        let tree := prog.foldl (fun t c =>
          let target := match c.op with
            | .writeFile n _ => some n
            | .substitute s => s.write
            | _ => none
          match target with
          | some n =>
            if n == "/dev/stdout" || n == "/dev/stderr" then t
            else ((t.writeFile inv.cwd n "").toOption).getD t
          | none => t) inv.tree
        -- read the inputs: their lines, messages for those that cannot be read
        let (lines, err, bad, input, stop) := files.foldl (fun (acc : List SedLine × String × Bool × String × Bool) f =>
          let (lines, err, bad, input, stop) := acc
          if stop then acc
          else if f == "-" then (lines ++ sedLines delimiter "-" input, err, bad, "", stop)
          else
            match tree.stat inv.cwd f with
            | .ok (.file text _) => (lines ++ sedLines delimiter f text, err, bad, input, stop)
            | .ok .dir => (lines, err ++ inv.message ("read error on " ++ f ++ ": " ++ errnoText .isDir), bad, input, true)
            | .error e => (lines, err ++ inv.message ("can\x27t read " ++ f ++ ": " ++ errnoText e), true, input, stop))
          ([], "", false, inv.input, false)
        let wrap := ((opts.last? "l").bind String.toNat?).getD 70
        let quiet := opts.has "n" || quietScript
        let steps := 64 * (prog.size + 1) * (lines.length + 2) + 10000
        if opts.has "i" || opts.has "s" then
          separateRun inv prog ends ranges steps (opts.last? "i") files
            { tree := tree, cwd := inv.cwd, ranges := ranges, quiet := quiet, lineWrap := wrap, delimiter }
        else
        let st : SedState :=
          { tree := tree, cwd := inv.cwd, pending := lines, ranges := ranges, quiet := quiet, lineWrap := wrap
            delimiter }
        let (st, code) := runCycles prog ends steps (2 * lines.length + 4) false st
        let status := match code with
          | some c => c
          | none => if stop then 4 else if bad then 2 else 0
        { status, writes := errThenOut (err ++ st.err) st.out, tree := st.tree, input }

end Regress.Shell
