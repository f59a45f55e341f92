import Regress.Shell.Utility.Basic
import Regress.Shell.Utility.Count
import Regress.Shell.Utility.Text
import Regress.Text.Regex

/-!
# Utilities that lay out lines

`nl` numbers lines, `paste` joins the lines of several files side by side or the lines of one
file into one, `fold` breaks long lines, `comm` sets two sorted files side by side in three
columns, and `yes` repeats a line.

* `nl` numbers the non-empty lines of the body by default, six columns wide and followed by a
  tab; a line it does not number gets as many spaces instead. Lines that are exactly `\:\:\:`,
  `\:\:` or `\:` start a header, body or footer and are written as empty lines.
* `fold` counts columns: a tab moves to the next multiple of eight, a backspace moves back and
  a carriage return to the start. With `-s` a line is broken after its last blank that fits.
* `yes` stops once it has filled a pipe's buffer: what reads from it never takes more.
-/

namespace Regress.Shell

/-! ## nl -/

/-- Which lines of a section `nl` numbers: all, the non-empty ones, none, or those a pattern
matches. -/
inductive NumberStyle where
  | all
  | nonEmpty
  | none
  | matching (pattern : String)
  deriving Inhabited

/-- Reads a numbering style of `nl`. -/
def readNumberStyle (s : String) : Option NumberStyle :=
  match s.toList with
  | ['a'] => some .all
  | ['t'] => some .nonEmpty
  | ['n'] => some .none
  | 'p' :: rest => some (.matching (String.ofList rest))
  | _ => none

/-- The options of `nl`. -/
def nlOptions : List OptSpec := [
  { key := "b", short := some 'b', long := some "body-numbering", arg := .required },
  { key := "d", short := some 'd', long := some "section-delimiter", arg := .required },
  { key := "f", short := some 'f', long := some "footer-numbering", arg := .required },
  { key := "h", short := some 'h', long := some "header-numbering", arg := .required },
  { key := "i", short := some 'i', long := some "line-increment", arg := .required },
  { key := "l", short := some 'l', long := some "join-blank-lines", arg := .required },
  { key := "n", short := some 'n', long := some "number-format", arg := .required },
  { key := "p", short := some 'p', long := some "no-renumber" },
  { key := "s", short := some 's', long := some "number-separator", arg := .required },
  { key := "v", short := some 'v', long := some "starting-line-number", arg := .required },
  { key := "w", short := some 'w', long := some "number-width", arg := .required },
  { key := "help", long := some "help" },
  { key := "version", long := some "version" }]

/-- A line number as `nl` writes it in a format (`ln`, `rn` or `rz`) and a width. -/
def formatLineNumber (format : String) (width : Nat) (n : Int) : String :=
  let digits := toString n
  let pad := width - digits.length
  if format == "ln" then digits ++ String.ofList (List.replicate pad ' ')
  else if format == "rz" then
    if n < 0 then "-" ++ String.ofList (List.replicate pad '0') ++ toString n.natAbs
    else String.ofList (List.replicate pad '0') ++ digits
  else String.ofList (List.replicate pad ' ') ++ digits

/-- `nl`: numbers the lines of its inputs. -/
def nl (inv : Invocation) : Completion :=
  match parseOptions nlOptions false inv.args with
  | .error e => inv.optionFailure 1 e
  | .ok (opts, files) =>
    let styleNames : List (String × String) := [("b", "body"), ("h", "header"), ("f", "footer")]
    -- the numbers: the option, what it is for, and the range it takes
    let numbers : List (String × String × Int × Int) := [
      ("i", "invalid line number increment", -Int.ofNat (Nat.pow 2 63), Int.ofNat (Nat.pow 2 63) - 1),
      ("l", "invalid line number of blank lines", 1, Int.ofNat (Nat.pow 2 63) - 1),
      ("v", "invalid starting line number", -Int.ofNat (Nat.pow 2 63), Int.ofNat (Nat.pow 2 63) - 1),
      ("w", "invalid line number field width", 1, 2147483647)]
    -- the options in order: a bad number stops at once, after the messages so far; a bad
    -- style or format is reported and the reading goes on
    let checked := opts.foldl (fun (acc : Except String (List String)) (k, v) =>
      acc.bind fun msgs =>
        match styleNames.lookup k, numbers.find? (·.1 == k) with
        | some what, _ =>
          if (readNumberStyle v).isSome then .ok msgs
          else .ok (msgs ++ ["invalid " ++ what ++ " numbering style: " ++ quoteName v])
        | none, some (_, what, lo, hi) =>
          match readCountWithin { signed := true } lo hi what v with
          | .ok _ => .ok msgs
          | .error m => .error (String.join ((msgs ++ [m]).map inv.message))
        | none, none =>
          if k == "n" && !(["ln", "rn", "rz"].contains v) then
            .ok (msgs ++ ["invalid line numbering format: " ++ quoteName v])
          else .ok msgs) (.ok [])
    let style (key default : String) : NumberStyle :=
      (readNumberStyle ((opts.last? key).getD default)).getD .none
    let number (key : String) (default : Int) : Int :=
      match opts.last? key with
      | some v => ((readCountIn { signed := true } v).toOption).getD default
      | none => default
    match checked with
    | .error text => inv.finish 1 "" text
    | .ok (_ :: _ ) =>
      inv.finish 1 "" (String.join ((checked.toOption.getD []).map inv.message) ++ inv.tryHelp)
    | .ok [] =>
      let body := style "b" "t"
      let header := style "h" "n"
      let footer := style "f" "n"
      let incr := number "i" 1
      let start := number "v" 1
      let width := number "w" 6
      let format := (opts.last? "n").getD "rn"
      let sep := (opts.last? "s").getD "\t"
      let delim := match (opts.last? "d").getD "\\:" with
        | "" => ""
        | d => if d.length == 1 then d ++ ":" else d
      let blankField := String.ofList (List.replicate (width.toNat + sep.length) ' ')
      let join := (number "l" 1).toNat
      let files := if files.isEmpty then ["-"] else files
      let (each, input) := readEach inv files fun f e => quoteIfNeeded f ++ ": " ++ errnoText e
      let selects (pattern line : String) : Bool :=
        match Regex.parseWith { extended := false, strict := false, lookahead := false } pattern with
        | .ok r => r.found line
        | .error _ => false
      -- one line: its text, the next number, the current style and the blank lines in a row
      let step (acc : String × Int × NumberStyle × Nat) (line : String) : String × Int × NumberStyle × Nat :=
        let (out, next, current, blanks) := acc
        if !delim.isEmpty && line == delim ++ delim ++ delim then
          (out ++ "\n", if opts.has "p" then next else start, header, blanks)
        else if !delim.isEmpty && line == delim ++ delim then
          (out ++ "\n", next, body, blanks)
        else if !delim.isEmpty && line == delim then
          (out ++ "\n", next, footer, blanks)
        else
          let (numbered, blanks) := match current with
            | .all =>
              if join > 1 && line.isEmpty then
                if blanks + 1 == join then (true, 0) else (false, blanks + 1)
              else (true, 0)
            | .nonEmpty => (!line.isEmpty, blanks)
            | .none => (false, blanks)
            | .matching p => (selects p line, blanks)
          if numbered then
            (out ++ formatLineNumber format width.toNat next ++ sep ++ line ++ "\n", next + incr, current, blanks)
          else (out ++ blankField ++ line ++ "\n", next, current, blanks)
      let (writes, _, failed) := each.foldl (fun (acc : List Write × (Int × NumberStyle × Nat) × Bool) (_, r) =>
        let (ws, st, failed) := acc
        match r with
        | .ok text =>
          let (out, st) := (splitLines text).foldl (fun (out, st) line =>
            let (o, st) := step (out, st) line
            (o, st)) ("", st)
          (addOut ws out, st, failed)
        | .error m => (addErr ws m, st, true)) ([], (start, body, 0), false)
      { status := if failed then 1 else 0, writes, tree := inv.tree, input }

/-! ## paste -/

/-- The delimiters of `paste -d`: each character, with `\n`, `\t`, `\\` and `\0` (no
delimiter) as escapes. -/
def pasteDelimiters (s : String) : List String :=
  let rec go : Nat → List Char → List String → List String
    | 0, _, acc => acc.reverse
    | _ + 1, [], acc => acc.reverse
    | fuel + 1, '\\' :: c :: rest, acc =>
      let d := if c == 'n' then "\n" else if c == 't' then "\t" else if c == '0' then ""
        else if c == 'b' then "\x08" else if c == 'f' then "\x0c" else if c == 'r' then "\r"
        else if c == 'v' then "\x0b" else String.singleton c
      go fuel rest (d :: acc)
    | fuel + 1, c :: rest, acc => go fuel rest (String.singleton c :: acc)
  go (s.length + 1) s.toList []

/-- Lines joined with delimiters taken in turn. -/
def joinCycling (delims : List String) (items : List String) : String :=
  match items with
  | [] => ""
  | first :: rest =>
    (rest.zipIdx.foldl (fun acc (item, i) =>
      acc ++ (if delims.isEmpty then "" else delims.getD (i % delims.length) "") ++ item) first)

/-- The lines that the `j`-th of `k` readers of one stream gets when they take a line each in
turn: those at positions `j`, `j + k`, `j + 2k`, ... -/
def dealtLines (k j : Nat) (lines : List String) : List String :=
  (lines.zipIdx.filter fun (_, i) => k != 0 && i % k == j).map (·.1)

/-- `paste`: writes the lines of its inputs side by side, or with `-s` each input on a line. -/
def paste (inv : Invocation) : Completion :=
  let specs : List OptSpec := [
    { key := "d", short := some 'd', long := some "delimiters", arg := .required },
    { key := "s", short := some 's', long := some "serial" },
    { key := "z", short := some 'z', long := some "zero-terminated" },
    { key := "help", long := some "help" },
    { key := "version", long := some "version" }]
  match parseOptions specs false inv.args with
  | .error e => inv.optionFailure 1 e
  | .ok (opts, files) =>
    let given := (opts.last? "d").getD "\t"
    let delims := if given.isEmpty then [""] else pasteDelimiters given
    if (given.toList.reverse.takeWhile (· == '\\')).length % 2 == 1 then
      inv.finish 1 "" (inv.message ("delimiter list ends with an unescaped backslash: " ++ quoteName given))
    else
      let files := if files.isEmpty then ["-"] else files
      let dashes := (files.filter (· == "-")).length
      let stdinLines := splitLines inv.input
      let (texts, err, _) := files.foldl (fun (acc : List (List String) × String × Nat) f =>
        if f == "-" then
          let mine := if opts.has "s" then (if acc.2.2 == 0 then stdinLines else [])
            else dealtLines dashes acc.2.2 stdinLines
          (acc.1 ++ [mine], acc.2.1, acc.2.2 + 1)
        else
          match inv.read f with
          | .ok t => (acc.1 ++ [splitLines t], acc.2)
          | .error e => (acc.1, acc.2.1 ++ inv.message (quoteIfNeeded f ++ ": " ++ errnoText e.errno), acc.2.2))
          ([], "", 0)
      if !err.isEmpty then inv.finish 1 "" err
      else
        let out := if opts.has "s" then
            String.join (texts.map fun ls => joinCycling delims ls ++ "\n")
          else
            let rows := texts.foldl (fun m ls => max m ls.length) 0
            String.join ((List.range rows).map fun r =>
              joinCycling delims (texts.map fun ls => ls.getD r "") ++ "\n")
        { status := 0, writes := outThenErr out "", tree := inv.tree, input := if files.contains "-" then "" else inv.input }

/-! ## fold -/

/-- The column after a character, as `fold` counts columns. -/
def foldColumn (bytes : Bool) (column : Nat) (c : Char) : Nat :=
  if bytes then column + 1
  else if c == '\x08' then column - 1
  else if c == '\r' then 0
  else if c == '\t' then column + 8 - column % 8
  else column + 1

/-- Folds one line (without its break) to a width: the text with breaks put in. -/
def foldLine (width : Nat) (bytes spaces : Bool) (line : List Char) : String :=
  let rec go : Nat → List Char → List Char → Nat → String → String
    | 0, _, pending, _, out => out ++ String.ofList pending
    | fuel + 1, rest, pending, column, out =>
      match rest with
      | [] => out ++ String.ofList pending
      | c :: more =>
        let column' := foldColumn bytes column c
        if column' > width then
          let blank := if spaces then pending.reverse.findIdx? (fun x => x == ' ' || x == '\t') else none
          match blank with
          | some fromEnd =>
            let cut := pending.length - fromEnd
            let kept := pending.drop cut
            go fuel rest kept (kept.foldl (foldColumn bytes) 0) (out ++ String.ofList (pending.take cut) ++ "\n")
          | none =>
            if pending.isEmpty then go fuel more [c] column' out
            else go fuel rest [] 0 (out ++ String.ofList pending ++ "\n")
        else go fuel more (pending ++ [c]) column' out
  go (3 * line.length + 3) line [] 0 ""

/-- The arguments of `fold` with the old form of a width, an option of digits (`-12`), made a
`-w` option; the word after a `-w` is its value and stays as it is, and `--` ends the options. -/
def oldWidth : Nat → List String → List String
  | 0, args => args
  | _ + 1, [] => []
  | fuel + 1, a :: rest =>
    if a == "--" then a :: rest
    else if a == "-w" || a == "--width" then
      match rest with
      | v :: more => a :: v :: oldWidth fuel more
      | [] => [a]
    else if a.length ≥ 2 && a.startsWith "-" && (a.drop 1).toString.all Char.isDigit then
      ("-w" ++ (a.drop 1).toString) :: oldWidth fuel rest
    else a :: oldWidth fuel rest

/-- `fold`: breaks the lines of its inputs that are wider than a width. -/
def fold (inv : Invocation) : Completion :=
  let specs : List OptSpec := [
    { key := "b", short := some 'b', long := some "bytes" },
    { key := "s", short := some 's', long := some "spaces" },
    { key := "w", short := some 'w', long := some "width", arg := .required },
    { key := "help", long := some "help" },
    { key := "version", long := some "version" }]
  match parseOptions specs false (oldWidth (inv.args.length + 1) inv.args) with
  | .error e => inv.optionFailure 1 e
  | .ok (opts, files) =>
    let widths := (opts.filter (·.1 == "w")).map (·.2)
    let read (v : String) := readCountWithin {} 1 (Int.ofNat (Nat.pow 2 64) - 10) "invalid number of columns" v
    match widths.foldl (fun (acc : Except String Int) v => acc.bind fun _ => read v) (.ok 80) with
    | .error m => inv.finish 1 "" (inv.message m)
    | .ok width =>
      let width := width.toNat
      let files := if files.isEmpty then ["-"] else files
      let (each, input) := readEach inv files fun f e => quoteIfNeeded f ++ ": " ++ errnoText e
      let folded (text : String) : String :=
        String.join ((linesWithBreaks text).map fun l =>
          if l.endsWith "\n" then foldLine width (opts.has "b") (opts.has "s") (l.toList.dropLast) ++ "\n"
          else foldLine width (opts.has "b") (opts.has "s") l.toList)
      let (writes, failed) := each.foldl (fun (acc : List Write × Bool) (_, r) =>
        match r with
        | .ok text => (addOut acc.1 (folded text), acc.2)
        | .error m => (addErr acc.1 m, true)) ([], false)
      { status := if failed then 1 else 0, writes, tree := inv.tree, input }

/-! ## comm -/

/-- Merges two sorted lists of lines into the columns of `comm`: lines only in the first, only
in the second, or in both. -/
def commMerge : Nat → List String → List String → List (Nat × String)
  | 0, _, _ => []
  | _ + 1, [], ys => ys.map (2, ·)
  | _ + 1, xs, [] => xs.map (1, ·)
  | fuel + 1, x :: xs, y :: ys =>
    if x == y then (3, x) :: commMerge fuel xs ys
    else if x < y then (1, x) :: commMerge fuel xs (y :: ys)
    else (2, y) :: commMerge fuel (x :: xs) ys

/-- `comm`: compares two sorted files line by line. -/
def comm (inv : Invocation) : Completion :=
  let specs : List OptSpec := flags "123" ++ [
    { key := "output-delimiter", long := some "output-delimiter", arg := .required },
    { key := "check-order", long := some "check-order" },
    { key := "nocheck-order", long := some "nocheck-order" },
    { key := "total", long := some "total" },
    { key := "z", short := some 'z', long := some "zero-terminated" },
    { key := "help", long := some "help" },
    { key := "version", long := some "version" }]
  match parseOptions specs false inv.args with
  | .error e => inv.optionFailure 1 e
  | .ok (opts, files) =>
    match files with
    | [] => inv.finish 1 "" (missingOperand inv)
    | [f] => inv.finish 1 "" (inv.message ("missing operand after " ++ quoteName f) ++ inv.tryHelp)
    | [a, b] =>
      let readOne (f : String) : Except String (List String) :=
        if f == "-" then .ok (splitLines inv.input)
        else (inv.read f).map splitLines |>.mapError fun e => inv.message (quoteIfNeeded f ++ ": " ++ errnoText e.errno)
      match readOne a, readOne b with
      | .error m, _ | _, .error m => inv.finish 1 "" m
      | .ok xs, .ok ys =>
        let delim := (opts.last? "output-delimiter").getD "\t"
        let merged := commMerge (xs.length + ys.length + 1) xs ys
        let shown (col : Nat) : Bool := !opts.has (toString col)
        let indent (col : Nat) : String :=
          String.join ((List.range (col - 1)).filterMap fun i => if shown (i + 1) then some delim else none)
        let out := String.join (merged.filterMap fun (col, l) =>
          if shown col then some (indent col ++ l ++ "\n") else none)
        let out := if opts.has "total" then
            let count (c : Nat) := (merged.filter (·.1 == c)).length
            out ++ toString (count 1) ++ delim ++ toString (count 2) ++ delim ++ toString (count 3) ++ delim ++ "total\n"
          else out
        { status := 0, writes := outThenErr out "", tree := inv.tree, input := if files.contains "-" then "" else inv.input }
    | _ :: _ :: extra :: _ => inv.finish 1 "" (inv.message ("extra operand " ++ quoteName extra) ++ inv.tryHelp)

/-! ## yes -/

/-- The size of a pipe's buffer: as much as a reader can be given before it reads. -/
def pipeCapacity : Nat := 65536

/-- `yes`: writes its arguments (or `y`) on a line, again and again. -/
def yes (inv : Invocation) : Completion :=
  let specs : List OptSpec := [
    { key := "help", long := some "help" },
    { key := "version", long := some "version" }]
  match parseOptions specs true inv.args with
  | .error e => inv.optionFailure 1 e
  | .ok (_, words) =>
    let line := (if words.isEmpty then "y" else " ".intercalate words) ++ "\n"
    let times := pipeCapacity / line.length + 1
    inv.finish 0 (String.join (List.replicate times line)) ""

end Regress.Shell
