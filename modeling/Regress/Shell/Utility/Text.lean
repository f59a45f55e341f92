import Regress.Shell.Utility.Basic
import Regress.Shell.Utility.Count

/-!
# Utilities that copy and count text

`cat` copies its inputs, `head` and `tail` copy their first or last lines or bytes, `wc` counts
them, and `tee` copies its input to files as well.

* Texts are octet texts, so a count of bytes counts characters.
* `cat` numbers lines with six columns and a tab, and refuses to copy a file that is its own
  output while there is something in it to copy.
* `head -n` stops right after its last line, so from a file standard input the rest stays to
  be read; `head -c` reads exactly its bytes.
* `wc` writes each count right-aligned to a common width: the number of digits of the total
  size of the files it counts, at least 7 when it reads anything but files, and 1 when it reads
  one file for one count.
-/

namespace Regress.Shell

/-- The number of bytes of a text. -/
def byteCount (s : String) : Nat :=
  s.length

/-- The first `n` bytes of a text. -/
def takeBytes (n : Nat) (s : String) : String :=
  String.ofList (s.toList.take n)

/-- A text without its first `n` bytes. -/
def dropBytes (n : Nat) (s : String) : String :=
  String.ofList (s.toList.drop n)

/-- The lines of a text with their breaks. -/
def linesWithBreaks (text : String) : List String :=
  let parts := text.splitOn "\n"
  let n := parts.length
  (parts.zipIdx.filterMap fun (p, i) =>
    if i + 1 < n then some (p ++ "\n") else if p.isEmpty then none else some p)

/-! ## cat -/

/-- The options of `cat`. -/
def catOptions : List OptSpec := [
  { key := "A", short := some 'A', long := some "show-all" },
  { key := "b", short := some 'b', long := some "number-nonblank" },
  { key := "e", short := some 'e' },
  { key := "E", short := some 'E', long := some "show-ends" },
  { key := "n", short := some 'n', long := some "number" },
  { key := "s", short := some 's', long := some "squeeze-blank" },
  { key := "t", short := some 't' },
  { key := "T", short := some 'T', long := some "show-tabs" },
  { key := "u", short := some 'u' },
  { key := "v", short := some 'v', long := some "show-nonprinting" },
  { key := "help", long := some "help" },
  { key := "version", long := some "version" }]

/-- A byte as `cat -v` shows it. -/
def showByte (b : Nat) (tabs : Bool) : String :=
  if b == 9 && !tabs then "\t"
  else if b == 10 then "\n"
  else if b < 32 then "^" ++ String.singleton (Char.ofNat (b + 64))
  else if b < 127 then String.singleton (Char.ofNat b)
  else if b == 127 then "^?"
  else
    let low := b - 128
    "M-" ++ (if low < 32 then "^" ++ String.singleton (Char.ofNat (low + 64))
      else if low < 127 then String.singleton (Char.ofNat low) else "^?")

/-- How `cat` shows the characters of a line. -/
structure CatStyle where
  nonprinting : Bool
  tabs : Bool
  ends : Bool
  number : Bool
  numberNonblank : Bool
  squeeze : Bool

/-- A character as `cat` shows it. -/
def CatStyle.showChar (st : CatStyle) (c : Char) : String :=
  if st.nonprinting then
    showByte c.toNat st.tabs
  else if st.tabs && c == '\t' then "^I"
  else String.singleton c

/-- The state of `cat` across its inputs: the last line number written and whether the last
line written was blank. -/
structure CatState where
  number : Nat := 0
  lastBlank : Bool := false

/-- Writes one line (with its break, if it has one) as `cat` shows it. -/
def CatStyle.line (st : CatStyle) (s : CatState) (line : String) : String × CatState :=
  let hasBreak := line.endsWith "\n"
  let body := if hasBreak then String.ofList line.toList.dropLast else line
  let blank := body.isEmpty && hasBreak
  if st.squeeze && blank && s.lastBlank then ("", s)
  else
    let numbered := st.number && !(st.numberNonblank && blank) || (st.numberNonblank && !blank)
    let n := if numbered then s.number + 1 else s.number
    let numberText :=
      if numbered then String.ofList (List.replicate (6 - (toString n).length) ' ') ++ toString n ++ "\t"
      else ""
    let shown := String.join (body.toList.map st.showChar)
    (numberText ++ shown ++ (if hasBreak then (if st.ends then "$\n" else "\n") else ""),
      { number := n, lastBlank := blank })

/-- `cat`: writes the files, or its input, one after the other. -/
def cat (inv : Invocation) : Completion :=
  match parseOptions catOptions false inv.args with
  | .error e => inv.optionFailure 1 e
  | .ok (opts, files) =>
    let has (k : String) : Bool := opts.has k
    let st : CatStyle :=
      { nonprinting := has "v" || has "A" || has "e" || has "t"
        tabs := has "T" || has "A" || has "t"
        ends := has "E" || has "A" || has "e"
        number := has "n" || has "b"
        numberNonblank := has "b"
        squeeze := has "s" }
    let plain := !(st.nonprinting || st.tabs || st.ends || st.number || st.squeeze)
    let files := if files.isEmpty then ["-"] else files
    let step (acc : List Write × String × CatState × Bool) (f : String) :
        List Write × String × CatState × Bool :=
      let (ws, input, s, failed) := acc
      let emit (text : String) : String × CatState :=
        if plain then (text, s)
        else (linesWithBreaks text).foldl (fun (o, s) l =>
          let (t, s) := st.line s l
          (o ++ t, s)) ("", s)
      let fail (msg : String) := (addErr ws (inv.message msg), input, s, true)
      if f == "-" then
        if inv.outputFile.isSome && inv.inputFile == inv.outputFile && !input.isEmpty then
          (addErr ws (inv.message ("-: input file is output file")), "", s, true)
        else
          let (t, s) := emit input
          (addOut ws t, "", s, failed)
      else
        match inv.tree.locate inv.cwd f with
        | .error e => fail (quoteIfNeeded f ++ ": " ++ errnoText e)
        | .ok pl =>
          match inv.tree.get? pl.full with
          | none => fail (quoteIfNeeded f ++ ": " ++ errnoText .noEntry)
          | some .dir => fail (quoteIfNeeded f ++ ": " ++ errnoText .isDir)
          | some (.file text _) =>
            if inv.outputFile == some pl.full && !text.isEmpty then
              fail (f ++ ": input file is output file")
            else
              let (t, s) := emit text
              (addOut ws t, input, s, failed)
    let (writes, input, _, failed) := files.foldl step ([], inv.input, {}, false)
    { status := if failed then 1 else 0, writes, tree := inv.tree, input }

/-! ## head and tail -/

/-- How much `head` or `tail` takes: lines or bytes, a count, and for `head` whether the
count is of what to leave out at the end, for `tail` whether it counts from the start. -/
structure Span where
  bytes : Bool := false
  count : Nat := 10
  other : Bool := false
  deriving Repr, Inhabited

/-- Reads the count of `head` or `tail`. A `-` in front is dropped, and for `head` counts what
to leave out at the end; a `+` in front makes `tail` count from the start. The count may have
the suffixes of sizes. -/
def spanOf (isTail bytes : Bool) (text : String) : Except String Span :=
  let (other, rest) : Bool × String := match text.toList with
    | '-' :: r => (!isTail, String.ofList r)
    | '+' :: _ => (isTail, text)
    | _ => (false, text)
  let what := "invalid number of " ++ (if bytes then "bytes" else "lines")
  let style : CountStyle := { suffixes := byteSuffixes, powerTails := true }
  (readCountWithin style 0 (Int.ofNat (Nat.pow 2 64) - 1) what rest).map
    fun n => { bytes, count := n.toNat, other }

/-- The options of `head` and `tail`. -/
def spanOptions : List OptSpec := [
  { key := "n", short := some 'n', long := some "lines", arg := .required },
  { key := "c", short := some 'c', long := some "bytes", arg := .required },
  { key := "q", short := some 'q', long := some "quiet" },
  { key := "q", long := some "silent" },
  { key := "v", short := some 'v', long := some "verbose" },
  { key := "f", short := some 'f' },
  { key := "f", long := some "follow", arg := .optional },
  { key := "z", short := some 'z', long := some "zero-terminated" },
  { key := "help", long := some "help" },
  { key := "version", long := some "version" }]

/-- The old form of a count as the first argument, `-5` or `+5`: the arguments with it made a
`-n` option. -/
def oldCount (tail : Bool) (args : List String) : List String :=
  match args with
  | a :: rest =>
    match a.toList with
    | '-' :: ds => if !ds.isEmpty && ds.all Char.isDigit then "-n" :: String.ofList ds :: rest else args
    | '+' :: ds => if tail && !ds.isEmpty && ds.all Char.isDigit then "-n" :: a :: rest else args
    | _ => args
  | [] => args

/-- Reads the span `head` or `tail` is asked for, or the message for the first bad count: each
count is read in turn and the last one counts. -/
def readSpan (inv : Invocation) (opts : OptList) (isTail : Bool) : Except String Span :=
  opts.foldl (fun acc (k, v) => acc.bind fun s =>
    if k == "n" || k == "c" then
      match spanOf isTail (k == "c") v with
      | .ok s => .ok s
      | .error m => .error (inv.message m)
    else .ok s) (.ok {})

/-- The first lines or bytes of a text that `head` writes, and how much of it that takes. -/
def headPart (s : Span) (text : String) : String :=
  if s.bytes then
    if s.other then takeBytes (byteCount text - s.count) text else takeBytes s.count text
  else
    let lines := linesWithBreaks text
    if s.other then String.join (lines.take (lines.length - s.count))
    else String.join (lines.take s.count)

/-- The last lines or bytes of a text that `tail` writes. -/
def tailPart (s : Span) (text : String) : String :=
  if s.bytes then
    if s.other then dropBytes (s.count - 1) text else dropBytes (byteCount text - s.count) text
  else
    let lines := linesWithBreaks text
    if s.other then String.join (lines.drop (s.count - 1))
    else String.join (lines.drop (lines.length - s.count))

/-- `head` or `tail`: the part of each input it takes, with a header before each when there
are several. -/
def spanUtility (isTail : Bool) (inv : Invocation) : Completion :=
  match parseOptions spanOptions false (oldCount isTail inv.args) with
  | .error e => inv.optionFailure 1 e
  | .ok (opts, files) =>
    match readSpan inv opts isTail with
    | .error m => inv.finish 1 "" m
    | .ok span =>
      let files := if files.isEmpty then ["-"] else files
      let headers := (files.length > 1 || opts.has "v") && !opts.has "q"
      let part := if isTail then tailPart span else headPart span
      let step (acc : List Write × String × Bool × Bool) (f : String) :
          List Write × String × Bool × Bool :=
        let (ws, input, first, failed) := acc
        let header := if headers then (if first then "" else "\n") ++ "==> " ++
          (if f == "-" then "standard input" else f) ++ " <==\n" else ""
        if f == "-" then
          let taken := part input
          let left :=
            if isTail || span.other then ""
            else if span.bytes then dropBytes (byteCount taken) input
            else if inv.seekable then String.ofList (input.toList.drop taken.length) else ""
          (addOut ws (header ++ taken), left, false, failed)
        else
          match inv.read f with
          | .ok text => (addOut ws (header ++ part text), input, false, failed)
          | .error e =>
            let msg := match e.errno with
              | .isDir => "error reading " ++ quoteAlways f ++ ": " ++ errnoText e.errno
              | errno => "cannot open " ++ quoteAlways f ++ " for reading: " ++ errnoText errno
            let ws := if e.errno == .isDir then addOut ws header else ws
            (addErr ws (inv.message msg), input, first && e.errno != .isDir, true)
      let (writes, input, _, failed) := files.foldl step ([], inv.input, true, false)
      { status := if failed then 1 else 0, writes, tree := inv.tree, input }

/-- `head`: the first lines or bytes of each input. -/
def head (inv : Invocation) : Completion :=
  spanUtility false inv

/-- `tail`: the last lines or bytes of each input. -/
def tail (inv : Invocation) : Completion :=
  spanUtility true inv

/-! ## wc -/

/-- The options of `wc`. -/
def wcOptions : List OptSpec := [
  { key := "c", short := some 'c', long := some "bytes" },
  { key := "m", short := some 'm', long := some "chars" },
  { key := "l", short := some 'l', long := some "lines" },
  { key := "w", short := some 'w', long := some "words" },
  { key := "L", short := some 'L', long := some "max-line-length" },
  { key := "help", long := some "help" },
  { key := "version", long := some "version" }]

/-- The counts of a text: lines, words, characters, bytes and the longest line's width. -/
structure Counts where
  lines : Nat := 0
  words : Nat := 0
  chars : Nat := 0
  bytes : Nat := 0
  longest : Nat := 0
  deriving Repr, Inhabited

/-- What `wc` keeps while it reads a text byte by byte: the words ended so far, whether it is
inside a word, the width of the line so far and the widest line ended so far. -/
structure WordScan where
  words : Nat := 0
  inWord : Bool := false
  column : Nat := 0
  longest : Nat := 0
  deriving Inhabited

/-- Ends the word `wc` is inside, if any. -/
def WordScan.breakWord (s : WordScan) : WordScan :=
  { s with words := s.words + (if s.inWord then 1 else 0), inWord := false }

/-- One byte for `wc` in the C locale. A line break, carriage return or form feed ends the
line's width; a tab reaches the next multiple of 8; these, a blank and a vertical tab end a
word. Any other byte that prints is one column and part of a word; a byte that does not print
counts for nothing and neither starts nor ends a word. -/
def WordScan.step (s : WordScan) (c : Char) : WordScan :=
  if c == '\n' || c == '\r' || c == '\x0c' then
    { s with longest := max s.longest s.column, column := 0 }.breakWord
  else if c == '\t' then { s with column := s.column + 8 - s.column % 8 }.breakWord
  else if c == ' ' then { s with column := s.column + 1 }.breakWord
  else if c == '\x0b' then s.breakWord
  else if printsInC c then { s with column := s.column + 1, inWord := true }
  else s

/-- The counts of a text. -/
def countText (text : String) : Counts :=
  let s := (text.foldl WordScan.step {}).breakWord
  { lines := (text.toList.filter (· == '\n')).length, words := s.words
    chars := byteCount text, bytes := byteCount text, longest := max s.longest s.column }

/-- Adds counts; the longest line is the longest of both. -/
def Counts.add (a b : Counts) : Counts :=
  { lines := a.lines + b.lines, words := a.words + b.words, chars := a.chars + b.chars
    bytes := a.bytes + b.bytes, longest := max a.longest b.longest }

/-- `wc`: counts lines, words and bytes of each input, and their total when there are several. -/
def wc (inv : Invocation) : Completion :=
  match parseOptions wcOptions false inv.args with
  | .error e => inv.optionFailure 1 e
  | .ok (opts, files) =>
    let chosen := ["l", "w", "m", "c", "L"].filter opts.has
    let chosen := if chosen.isEmpty then ["l", "w", "c"] else chosen
    let named := !files.isEmpty
    let files := if files.isEmpty then ["-"] else files
    -- what each input is: its counts, or none when it could not be opened, and the message
    -- written before its counts
    let results := files.map fun f =>
      if f == "-" then (f, some (countText inv.input), !inv.seekable, "")
      else if f.isEmpty then (f, none, false, inv.message "invalid zero-length file name")
      else
        match inv.tree.stat inv.cwd f with
        | .ok (.file text _) => (f, some (countText text), false, "")
        | .ok .dir => (f, some {}, true, inv.message (quoteIfNeeded f ++ ": " ++ errnoText .isDir))
        | .error e => (f, none, false, inv.message (quoteIfNeeded f ++ ": " ++ errnoText e))
    let single := files.length == 1 && chosen.length == 1
    let sizes := results.filterMap fun (_, c, _, _) => c.map (·.bytes)
    let otherKinds := results.any fun (_, c, special, _) => c.isSome && special
    let width :=
      if single then 1
      else
        let digits := (toString (sizes.foldl (· + ·) 0)).length
        if otherKinds then max digits 7 else digits
    let field (c : Counts) (k : String) : Nat :=
      if k == "l" then c.lines else if k == "w" then c.words else if k == "m" then c.chars
      else if k == "c" then c.bytes else c.longest
    let row (c : Counts) (label : Option String) : String :=
      let cells := chosen.map fun k =>
        let s := toString (field c k)
        String.ofList (List.replicate (width - s.length) ' ') ++ s
      " ".intercalate cells ++ (match label with
        | some l => " " ++ l
        | none => "") ++ "\n"
    let label (f : String) : Option String :=
      if !named then none
      else if f.contains '\n' then some (quoteAlways f) else some f
    let (ws, total) := results.foldl (fun (acc : List Write × Counts) (f, c, _, msg) =>
      let (ws, total) := acc
      let ws := addErr ws msg
      match c with
      | some c => (addOut ws (row c (label f)), total.add c)
      | none => (ws, total)) ([], {})
    let writes := if files.length > 1 then addOut ws (row total (some "total")) else ws
    let failed := results.any fun (_, _, _, msg) => !msg.isEmpty
    { status := if failed then 1 else 0, writes, tree := inv.tree
      input := if files.contains "-" then "" else inv.input }

/-! ## tee -/

/-- `tee`: copies its input to its output and to each file, appending with `-a`. -/
def tee (inv : Invocation) : Completion :=
  let specs : List OptSpec := [
    { key := "a", short := some 'a', long := some "append" },
    { key := "i", short := some 'i', long := some "ignore-interrupts" },
    { key := "p", short := some 'p' }]
  match parseOptions specs false inv.args with
  | .error e => inv.optionFailure 1 e
  | .ok (opts, files) =>
    let (tree, err) := files.foldl (fun (acc : FileTree × String) f =>
      let old := if opts.has "a" then (acc.1.readFile inv.cwd f).toOption.getD "" else ""
      match acc.1.writeFile inv.cwd f (old ++ inv.input) with
      | .ok t => (t, acc.2)
      | .error e => (acc.1, acc.2 ++ inv.message (quoteIfNeeded f ++ ": " ++ errnoText e.errno))) (inv.tree, "")
    { status := if err.isEmpty then 0 else 1, writes := errThenOut err inv.input, tree, input := "" }

end Regress.Shell
