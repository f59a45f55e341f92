import Regress.Shell.Utility.Basic
import Regress.Shell.Utility.Count
import Regress.Shell.Utility.Text
import Regress.Text.Utf8

/-!
# Comparing files

`cmp` compares two files byte by byte and reports the first difference; `diff` compares them
line by line and writes the lines to delete and add to turn the first into the second.

* `cmp` writes `A B differ: char N, line L` (the words of the POSIX locale) on standard output
  for the first differing byte (with `-b`, `byte` and the two bytes in octal and as text), or
  on standard error that one file ended first. Its status is 0 for equal files, 1 for
  different ones and 2 for trouble.
* `diff` keeps a longest common subsequence of the lines and writes each run of changes as a
  hunk: `NdM` for lines deleted, `NaM` for lines added and `NcM` for lines replaced, the old
  lines marked `<` and the new ones `>`. A last line without its break is followed by
  `\ No newline at end of file`. With `-B` a hunk that only deletes and adds blank lines is
  left out, and files that differ only by such hunks count as the same.
-/

namespace Regress.Shell

/-! ## cmp -/

/-- The first position where two byte lists differ, if they do before either ends. -/
def firstDifference : Nat → List UInt8 → List UInt8 → Option Nat
  | _, [], _ => none
  | _, _, [] => none
  | i, x :: xs, y :: ys => if x == y then firstDifference (i + 1) xs ys else some i

/-- The number of the line a byte position is in: one more than the breaks before it. -/
def lineAt (bytes : List UInt8) (pos : Nat) : Nat :=
  ((bytes.take pos).filter (· == 10)).length + 1

/-- How `cmp -b` shows a byte: itself when printable, else `M-` for the high bit and `^`
before the letter of a control character (`^?` for delete). -/
def shownByte (b : UInt8) : String :=
  let c := b.toNat
  if 32 ≤ c && c < 127 then String.singleton (Char.ofNat c)
  else
    let (high, c) := if c ≥ 128 then ("M-", c - 128) else ("", c)
    if c < 32 then high ++ "^" ++ String.singleton (Char.ofNat (c + 64))
    else if c == 127 then high ++ "^?"
    else high ++ String.singleton (Char.ofNat c)

/-- A byte in octal, padded with spaces to three places. -/
def octalByte (b : UInt8) : String :=
  let ds := Nat.toDigits 8 b.toNat
  String.ofList (List.replicate (3 - ds.length) ' ' ++ ds)

/-- How `cmp` reads its counts: in any base, with the suffixes of sizes. -/
def cmpCount : CountStyle :=
  { anyBase := true, suffixes := "kKMGTPEZY".toList, powerTails := true }

/-- Reads a count of `cmp`, or gives back the text it refuses. -/
def readCmpCount (s : String) : Except String Nat :=
  match readCountIn cmpCount s with
  | .ok n => .ok n.toNat
  | .error _ => .error s

/-- The bytes `cmp` skips at the start of each file after a value of `-i`: `N` skips `N` of
the first and at least as many of the second, `N:M` skips `N` and `M`. A skip only grows. -/
def addSkips (skips : Nat × Nat) (v : String) : Except String (Nat × Nat) :=
  let cs := v.toList
  let before := String.ofList (cs.takeWhile (· != ':'))
  match cs.dropWhile (· != ':') with
  | [] => (readCmpCount v).map fun n => let a := max skips.1 n; (a, max skips.2 a)
  | _ :: after =>
    (readCmpCount before).bind fun n =>
      (readCmpCount (String.ofList after)).map fun m => (max skips.1 n, max skips.2 m)

/-- `cmp`: compares two files byte by byte, each after the bytes it skips (from `-i` or the
third and fourth operands), at most as many as `-n` says. -/
def cmp (inv : Invocation) : Completion :=
  let specs : List OptSpec := [
    { key := "b", short := some 'b', long := some "print-bytes" },
    { key := "b", short := some 'c' },
    { key := "l", short := some 'l', long := some "verbose" },
    { key := "s", short := some 's', long := some "quiet" },
    { key := "s", long := some "silent" },
    { key := "i", short := some 'i', long := some "ignore-initial", arg := .required },
    { key := "n", short := some 'n', long := some "bytes", arg := .required },
    { key := "help", long := some "help" },
    { key := "version", long := some "version" }]
  let tryHelp : String := inv.message ("Try \x27" ++ inv.name ++ " --help\x27 for more information.")
  let trouble (m : String) : Completion := inv.finish 2 "" (inv.message m ++ tryHelp)
  match parseOptions specs false inv.args with
  | .error e => inv.finish 2 "" (e.message inv.name ++ tryHelp)
  | .ok (opts, files) =>
    -- the options in order: the skips and the least limit
    let read := opts.foldl (fun (acc : Except String ((Nat × Nat) × Option Nat)) (k, v) =>
      acc.bind fun (skips, limit) =>
        if k == "i" then
          match addSkips skips v with
          | .ok skips => .ok (skips, limit)
          | .error bad => .error ("invalid --ignore-initial value \x27" ++ bad ++ "\x27")
        else if k == "n" then
          match readCmpCount v with
          | .ok n => .ok (skips, some (match limit with
            | some l => min l n
            | none => n))
          | .error _ => .error ("invalid --bytes value \x27" ++ v ++ "\x27")
        else .ok (skips, limit)) (.ok ((0, 0), none))
    let operandSkip (acc : Except String (Nat × Nat)) (i : Nat) (v : String) : Except String (Nat × Nat) :=
      acc.bind fun (a, b) =>
        match readCmpCount v with
        | .ok n => .ok (if i == 0 then (max a n, b) else (a, max b n))
        | .error _ => .error ("invalid --ignore-initial value \x27" ++ v ++ "\x27")
    match read with
    | .error m => trouble m
    | .ok (skips, limit) =>
    match files with
    | [] => trouble ("missing operand after \x27" ++ (inv.args.getLast?.getD inv.name) ++ "\x27")
    | _ :: _ :: _ :: _ :: extra :: _ => trouble ("extra operand \x27" ++ extra ++ "\x27")
    | first :: rest =>
      let second := rest.headD "-"
      match ((rest.drop 1).zipIdx).foldl (fun acc (v, i) => operandSkip acc i v) (.ok skips) with
      | .error m => trouble m
      | .ok (skip1, skip2) =>
      let quiet := opts.has "s"
      let readOne (f : String) : Except String String :=
        if f == "-" then .ok inv.input
        else (inv.read f).mapError fun e => f ++ ": " ++ errnoText e.errno
      let failed (m : String) : Completion := inv.finish 2 "" (if quiet then "" else inv.message m)
      match readOne first with
      | .error m => failed m
      | .ok a =>
      if first == second && skip1 == skip2 then inv.finish 0 "" ""
      else
      match readOne second with
      | .error m => failed m
      | .ok b =>
        let input := if first == "-" || second == "-" then "" else inv.input
        let xs := (Utf8.octetsOfText a).drop skip1
        let ys := (Utf8.octetsOfText b).drop skip2
        let (xs, ys) := match limit with
          | some n => (xs.take n, ys.take n)
          | none => (xs, ys)
        let bytes := opts.has "b"
        let done (status : Nat) (out err : String) : Completion :=
          { status, writes := if quiet then [] else outThenErr out err, tree := inv.tree, input }
        if opts.has "l" then
          let diffs := (xs.zip ys).zipIdx.filter fun ((x, y), _) => x != y
          let width := (toString (min xs.length ys.length)).length
          let out := String.join (diffs.map fun ((x, y), i) =>
            let pos := toString (i + 1)
            let shownX := shownByte x
            let shownX := shownX ++ String.ofList (List.replicate (4 - shownX.length) ' ')
            String.ofList (List.replicate (width - pos.length) ' ') ++ pos ++ " " ++ octalByte x ++ " " ++
              (if bytes then shownX ++ " " ++ octalByte y ++ " " ++ shownByte y else octalByte y) ++ "\n")
          let eof := if xs.length == ys.length then ""
            else
              let shorter := if xs.length < ys.length then first else second
              let n := min xs.length ys.length
              if n == 0 then "cmp: EOF on " ++ shorter ++ " which is empty\n"
              else "cmp: EOF on " ++ shorter ++ " after byte " ++ toString n ++ "\n"
          done (if diffs.isEmpty && xs.length == ys.length then 0 else 1) out eof
        else
          match firstDifference 0 xs ys with
          | some i =>
            let place := toString (i + 1) ++ ", line " ++ toString (lineAt xs i)
            let shown := match xs[i]?, ys[i]? with
              | some x, some y =>
                " is " ++ octalByte x ++ " " ++ shownByte x ++ " " ++ octalByte y ++ " " ++ shownByte y
              | _, _ => ""
            done 1 (first ++ " " ++ second ++ (if bytes then " differ: byte " ++ place ++ shown
              else " differ: char " ++ place) ++ "\n") ""
          | none =>
            if xs.length == ys.length then done 0 "" ""
            else
              let shorter := if xs.length < ys.length then first else second
              let common := if xs.length < ys.length then xs else ys
              let n := common.length
              if n == 0 then done 1 "" ("cmp: EOF on " ++ shorter ++ " which is empty\n")
              else
                let breaks := (common.filter (· == 10)).length
                -- after a whole line the count is of whole lines; else of the line it is in
                let atLineStart := common.getLast? == some 10
                let line := if atLineStart then breaks else breaks + 1
                done 1 "" ("cmp: EOF on " ++ shorter ++ " after byte " ++ toString n ++
                  (if atLineStart then ", line " else ", in line ") ++
                  toString line ++ "\n")

/-! ## diff -/

/-- One step of an edit script: a line kept, deleted from the first file or added from the
second. -/
inductive EditStep where
  | keep
  | delete
  | add
  deriving Repr, DecidableEq, Inhabited

/-- The lengths of the longest common subsequences of the suffixes of two line arrays, row by
row from the end. -/
def lcsTable (a b : Array String) (same : String → String → Bool) : Array (Array Nat) :=
  let m := b.size
  (List.range a.size).foldl (fun (rows : Array (Array Nat)) k =>
    let i := a.size - 1 - k
    let below := rows.back?.getD (Array.replicate (m + 1) 0)
    let row := (List.range m).foldl (fun (row : Array Nat) l =>
      let j := m - 1 - l
      let v := if same (a.getD i "") (b.getD j "") then below.getD (j + 1) 0 + 1
        else max (below.getD j 0) (row.getD 0 0)
      #[v] ++ row) #[0]
    rows.push row) #[Array.replicate (m + 1) 0]

/-- An edit script turning the lines `a` into `b` through a longest common subsequence,
deleting before adding where both are possible. -/
def editScript (a b : Array String) (same : String → String → Bool) : List EditStep :=
  let table := lcsTable a b same
  -- the row for suffix i is at index a.size - i
  let cell (i j : Nat) : Nat := (table.getD (a.size - i) #[]).getD j 0
  let rec go : Nat → Nat → Nat → List EditStep
    | 0, _, _ => []
    | fuel + 1, i, j =>
      if i ≥ a.size then List.replicate (b.size - j) .add
      else if j ≥ b.size then List.replicate (a.size - i) .delete
      else if same (a.getD i "") (b.getD j "") && cell i j == cell (i + 1) (j + 1) + 1 then .keep :: go fuel (i + 1) (j + 1)
      else if cell (i + 1) j ≥ cell i (j + 1) then .delete :: go fuel (i + 1) j
      else .add :: go fuel i (j + 1)
  go (a.size + b.size + 1) 0 0

/-- A run of changes: the lines deleted from the first file from `i` and added from the
second from `j`. -/
structure Hunk where
  i : Nat
  deleted : Nat
  j : Nat
  added : Nat
  deriving Repr, Inhabited

/-- The hunks of an edit script. -/
def hunksOf (script : List EditStep) : List Hunk :=
  let (hunks, current, _, _) := script.foldl (fun (acc : List Hunk × Option Hunk × Nat × Nat) s =>
    let (hunks, current, i, j) := acc
    match s with
    | .keep =>
      ((match current with | some h => hunks ++ [h] | none => hunks), none, i + 1, j + 1)
    | .delete =>
      let h := current.getD { i, deleted := 0, j, added := 0 }
      (hunks, some { h with deleted := h.deleted + 1 }, i + 1, j)
    | .add =>
      let h := current.getD { i, deleted := 0, j, added := 0 }
      (hunks, some { h with added := h.added + 1 }, i, j + 1)) ([], none, 0, 0)
  match current with
  | some h => hunks ++ [h]
  | none => hunks

/-- A range of lines as the normal format writes it: one number, or the first and last. -/
def lineRange (start count : Nat) : String :=
  if count ≤ 1 then toString (start + 1) else toString (start + 1) ++ "," ++ toString (start + count)

/-- The normal-format text of the hunks between two files' lines; `aEnds` and `bEnds` tell
that the last line of each has its break. -/
def normalDiff (a b : Array String) (aEnds bEnds : Bool) (hunks : List Hunk) : String :=
  let line (mark : String) (lines : Array String) (ends : Bool) (k : Nat) : String :=
    mark ++ lines.getD k "" ++ "\n" ++
      (if k + 1 == lines.size && !ends then "\\ No newline at end of file\n" else "")
  String.join (hunks.map fun h =>
    let head :=
      if h.added == 0 then lineRange h.i h.deleted ++ "d" ++ toString h.j
      else if h.deleted == 0 then toString h.i ++ "a" ++ lineRange h.j h.added
      else lineRange h.i h.deleted ++ "c" ++ lineRange h.j h.added
    let olds := String.join ((List.range h.deleted).map fun k => line "< " a aEnds (h.i + k))
    let news := String.join ((List.range h.added).map fun k => line "> " b bEnds (h.j + k))
    head ++ "\n" ++ olds ++ (if h.deleted > 0 && h.added > 0 then "---\n" else "") ++ news)

/-- The steps of an edit script, each with the line of the first file and of the second it
starts at. -/
def placedSteps (script : List EditStep) : List (EditStep × Nat × Nat) :=
  (script.foldl (fun (acc : List (EditStep × Nat × Nat) × Nat × Nat) s =>
    let (out, i, j) := acc
    match s with
    | .keep => ((s, i, j) :: out, i + 1, j + 1)
    | .delete => ((s, i, j) :: out, i + 1, j)
    | .add => ((s, i, j) :: out, i, j + 1)) ([], 0, 0)).1.reverse

/-- The stretches of an edit script that the context formats show, as the first and last
position of each: the changes with up to `context` kept lines around them, and changes closer
than twice that joined into one. -/
def contextGroups (steps : List (EditStep × Nat × Nat)) (context : Nat) : List (Nat × Nat) :=
  let changes := (steps.zipIdx.filter fun (st, _) => st.1 != .keep).map (·.2)
  let runs := changes.foldl (fun (acc : List (Nat × Nat)) k =>
    match acc with
    | (first, last) :: rest =>
      if k - last - 1 ≤ 2 * context then (first, k) :: rest else (k, k) :: (first, last) :: rest
    | [] => [(k, k)]) []
  runs.reverse.map fun (first, last) =>
    (first - min context first, min (steps.length - 1) (last + context))

/-- How many lines of the first and of the second file a stretch of steps covers. -/
def stretchCounts (part : List (EditStep × Nat × Nat)) : Nat × Nat :=
  part.foldl (fun (acc : Nat × Nat) st =>
    match st.1 with
    | .keep => (acc.1 + 1, acc.2 + 1)
    | .delete => (acc.1 + 1, acc.2)
    | .add => (acc.1, acc.2 + 1)) (0, 0)

/-- A line of a file as a context format writes it, after its mark; a last line without its
break is followed by a note that says so. -/
def markedLine (mark : String) (lines : Array String) (ends : Bool) (k : Nat) : String :=
  mark ++ lines.getD k "" ++ "\n" ++
    (if k + 1 == lines.size && !ends then "\\ No newline at end of file\n" else "")

/-- The unified-format text of an edit script between two files' lines, with `context` kept
lines around each change. -/
def unifiedDiff (a b : Array String) (aEnds bEnds : Bool) (context : Nat)
    (script : List EditStep) : String :=
  let steps := placedSteps script
  let range (start count : Nat) : String :=
    if count == 1 then toString (start + 1)
    else if count == 0 then toString start ++ ",0"
    else toString (start + 1) ++ "," ++ toString count
  String.join ((contextGroups steps context).map fun (first, last) =>
    let part := (steps.drop first).take (last + 1 - first)
    let (i0, j0) := match part.head? with
      | some (_, i, j) => (i, j)
      | none => (0, 0)
    let (na, nb) := stretchCounts part
    "@@ -" ++ range i0 na ++ " +" ++ range j0 nb ++ " @@\n" ++
      String.join (part.map fun (st, i, j) =>
        match st with
        | .keep => markedLine " " a aEnds i
        | .delete => markedLine "-" a aEnds i
        | .add => markedLine "+" b bEnds j))

/-- The context-format text of an edit script between two files' lines: each stretch shows
the first file's lines, then the second's, a line of a change that both deletes and adds
marked `!`. -/
def contextDiff (a b : Array String) (aEnds bEnds : Bool) (context : Nat)
    (script : List EditStep) : String :=
  let steps := placedSteps script
  let range (start count : Nat) : String :=
    if count == 0 then toString start
    else if count == 1 then toString (start + 1)
    else toString (start + 1) ++ "," ++ toString (start + count)
  -- a change that both deletes and adds marks its lines `!`
  let changed (part : List (EditStep × Nat × Nat)) (k : Nat) : Bool :=
    let around (p : List (EditStep × Nat × Nat)) := p.takeWhile (·.1 != .keep)
    let run := (around ((part.take k).reverse)) ++ around (part.drop k)
    run.any (·.1 == .delete) && run.any (·.1 == .add)
  String.join ((contextGroups steps context).map fun (first, last) =>
    let part := (steps.drop first).take (last + 1 - first)
    let (i0, j0) := match part.head? with
      | some (_, i, j) => (i, j)
      | none => (0, 0)
    let (na, nb) := stretchCounts part
    let olds := if part.any (·.1 == .delete) then
        String.join (part.zipIdx.filterMap fun ((st, i, _), k) =>
          match st with
          | .keep => some (markedLine "  " a aEnds i)
          | .delete => some (markedLine (if changed part k then "! " else "- ") a aEnds i)
          | .add => none)
      else ""
    let news := if part.any (·.1 == .add) then
        String.join (part.zipIdx.filterMap fun ((st, _, j), k) =>
          match st with
          | .keep => some (markedLine "  " b bEnds j)
          | .add => some (markedLine (if changed part k then "! " else "+ ") b bEnds j)
          | .delete => none)
      else ""
    "***************\n*** " ++ range i0 na ++ " ****\n" ++ olds ++
      "--- " ++ range j0 nb ++ " ----\n" ++ news)

/-- The time the context formats give for a file. -/
def fileStamp : String := "1970-01-01 00:00:00.000000000 +0000"

/-- How `diff` writes its output, from the last of the options that choose a format: normal,
unified or context, with the number of kept lines around each change. -/
def diffFormat (opts : OptList) : Except String (Option (Bool × Nat)) :=
  let chosen := opts.filter fun (k, _) => k == "u" || k == "c" || k == "U" || k == "C"
  match chosen.getLast? with
  | none => .ok none
  | some (k, v) =>
    let unified := k == "u" || k == "U"
    if v.isEmpty then .ok (some (unified, 3))
    else match v.toNat? with
      | some n => .ok (some (unified, n))
      | none => .error ("invalid context length " ++ quoteName v)

/-- `diff`: compares two files line by line. -/
def diff (inv : Invocation) : Completion :=
  let specs : List OptSpec := [
    { key := "q", short := some 'q', long := some "brief" },
    { key := "s", short := some 's', long := some "report-identical-files" },
    { key := "i", short := some 'i', long := some "ignore-case" },
    { key := "w", short := some 'w', long := some "ignore-all-space" },
    { key := "b", short := some 'b', long := some "ignore-space-change" },
    { key := "B", short := some 'B', long := some "ignore-blank-lines" },
    { key := "a", short := some 'a', long := some "text" },
    { key := "u", short := some 'u' },
    { key := "U", long := some "unified", arg := .optional },
    { key := "U", short := some 'U', arg := .required },
    { key := "c", short := some 'c' },
    { key := "C", long := some "context", arg := .optional },
    { key := "C", short := some 'C', arg := .required },
    { key := "label", long := some "label", arg := .required },
    { key := "help", long := some "help" },
    { key := "version", long := some "version" }]
  match parseOptions specs false inv.args with
  | .error e => inv.finish 2 "" (e.message inv.name ++ "diff: Try \x27diff --help\x27 for more information.\n")
  | .ok (opts, files) =>
    match files with
    | [] => inv.finish 2 "" (inv.message "missing operand after \x27diff\x27" ++ "diff: Try \x27diff --help\x27 for more information.\n")
    | [f] => inv.finish 2 "" (inv.message ("missing operand after " ++ quoteName f) ++ "diff: Try \x27diff --help\x27 for more information.\n")
    | _ :: _ :: extra :: _ => inv.finish 2 "" (inv.message ("extra operand " ++ quoteName extra) ++ "diff: Try \x27diff --help\x27 for more information.\n")
    | [first, second] =>
      let readOne (f : String) : Except String String :=
        if f == "-" then .ok inv.input
        else (inv.read f).mapError fun e => f ++ ": " ++ errnoText e.errno
      match readOne first, readOne second with
      | .error m, _ | _, .error m => inv.finish 2 "" (inv.message m)
      | .ok ta, .ok tb =>
        let input := if first == "-" || second == "-" then "" else inv.input
        let a := (splitLines ta).toArray
        let b := (splitLines tb).toArray
        let aEnds := ta.isEmpty || ta.endsWith "\n"
        let bEnds := tb.isEmpty || tb.endsWith "\n"
        let norm (s : String) : String :=
          let s := if opts.has "i" then lowerAscii s else s
          if opts.has "w" then String.ofList (s.toList.filter fun c => c != ' ' && c != '\t')
          else if opts.has "b" then
            String.ofList ((s.toList.foldl (fun (acc : List Char × Bool) c =>
              if c == ' ' || c == '\t' then (acc.1, true)
              else ((if acc.2 then c :: ' ' :: acc.1 else c :: acc.1), false)) ([], false)).1.reverse)
          else s
        let same (x y : String) : Bool := norm x == norm y
        let script := editScript a b same
        -- a last line whose break differs is a changed line
        let script := if aEnds != bEnds && a.size > 0 && b.size > 0 && script.getLast? == some .keep then
            script.dropLast ++ [.delete, .add] else script
        -- with -B a hunk of blank lines alone does not count
        let blank (line : String) : Bool :=
          if opts.has "w" || opts.has "b" then
            line.all fun c => c == ' ' || c == '\t' || c == '\x0b' || c == '\x0c' || c == '\r'
          else line.isEmpty
        let ignorable (h : Hunk) : Bool :=
          (List.range h.deleted).all (fun k => blank (a.getD (h.i + k) "")) &&
            (List.range h.added).all (fun k => blank (b.getD (h.j + k) ""))
        let hunks := if opts.has "B" then (hunksOf script).filter (!ignorable ·) else hunksOf script
        if hunks.isEmpty then
          { status := 0, tree := inv.tree, input
            writes := outThenErr (if opts.has "s" then "Files " ++ first ++ " and " ++ second ++ " are identical\n" else "") "" }
        else if opts.has "q" then
          { status := 1, tree := inv.tree, input, writes := [.out ("Files " ++ first ++ " and " ++ second ++ " differ\n")] }
        else
          match diffFormat opts with
          | .error m => inv.finish 2 "" (inv.message m)
          | .ok none => { status := 1, tree := inv.tree, input, writes := [.out (normalDiff a b aEnds bEnds hunks)] }
          | .ok (some (unified, context)) =>
            let labels := opts.all "label"
            let nameOf (k : Nat) (f : String) : String :=
              labels.getD k (f ++ "\t" ++ fileStamp)
            let out := if unified then
                "--- " ++ nameOf 0 first ++ "\n+++ " ++ nameOf 1 second ++ "\n" ++
                  unifiedDiff a b aEnds bEnds context script
              else
                "*** " ++ nameOf 0 first ++ "\n--- " ++ nameOf 1 second ++ "\n" ++
                  contextDiff a b aEnds bEnds context script
            { status := 1, tree := inv.tree, input, writes := outThenErr out "" }

end Regress.Shell
