import Regress.Shell.Utility.Basic

/-!
# join

`join` pairs the lines of two inputs sorted on a field: each line of the first with each line
of the second whose field is the same, written as that field, then the other fields of the
first line, then those of the second.

* **Fields.** With `-t` a field ends at each separator; otherwise fields are runs of other
  characters than blanks, the blanks in front skipped. `-1`, `-2` and `-j` choose the fields
  compared, counted from one; `-i` compares them ignoring case.
* **Runs.** The inputs are read together. A line whose field comes first is unpaired and read
  past; lines with equal fields are gathered on both sides and every pair of them is written.
  `-a` also writes the unpaired lines of an input, and `-v` only those.
* **Layout.** `-o` lists the fields to write, `0` for the compared one; `-o auto` writes as many
  fields as each input's first line has. `-e` stands in for a field that is missing or empty.
* **Order.** A line whose field comes before that of the line above it is out of order. Once
  some line was unpaired, the first such line of each input is reported, and `join` ends with
  status 1 after its output; `--check-order` stops at the first one, `--nocheck-order` never
  looks.
-/

namespace Regress.Shell

/-- The fields of a line: cut at every separator with `sep`, or else at runs of blanks, the
blanks in front skipped and blanks at the end leaving one empty field. An empty line has none. -/
def joinFields (sep : Option Char) (line : String) : List String :=
  if line.isEmpty then []
  else
    match sep with
    | some '\n' => [line]
    | some t => line.splitOn (String.singleton t)
    | none =>
      let blank (c : Char) : Bool := c == ' ' || c == '\t' || c == '\n'
      let cs := line.toList.dropWhile blank
      if cs.isEmpty then []
      else
        let (fields, cur, _) := cs.foldl (fun (acc : List String × List Char × Bool) c =>
          let (fields, cur, inBlank) := acc
          if blank c then (if inBlank then acc else (String.ofList cur.reverse :: fields, [], true))
          else (fields, c :: cur, false)) ([], [], false)
        (String.ofList cur.reverse :: fields).reverse

/-- A field to write: the compared one, or a field of the first (`1`) or second input, counted
from zero. -/
inductive JoinField where
  | key
  | of (file : Nat) (index : Nat)
  deriving Repr, DecidableEq, Inhabited

/-- How `join` compares and writes. -/
structure JoinSettings where
  sep : Option Char := none
  field1 : Nat := 0
  field2 : Nat := 0
  unpaired1 : Bool := false
  unpaired2 : Bool := false
  pairs : Bool := true
  filler : Option String := none
  format : List JoinField := []
  auto : Bool := false
  ignoreCase : Bool := false
  /-- `some true` stops at the first line out of order, `some false` never looks. -/
  checkOrder : Option Bool := none
  header : Bool := false
  eol : String := "\n"
  deriving Inhabited

/-- Compares the fields `i` of `a` and `j` of `b`: a missing or empty field comes first, then
by bytes, folded to upper case with `ignoreCase`. -/
def joinKeyOrder (ignoreCase : Bool) (a : List String) (i : Nat) (b : List String) (j : Nat) :
    Ordering :=
  let x := a.getD i ""
  let y := b.getD j ""
  if x.isEmpty then (if y.isEmpty then .eq else .lt)
  else if y.isEmpty then .gt
  else if ignoreCase then compare (upperAscii x) (upperAscii y)
  else compare x y

/-- One input as `join` reads it: its name, the lines left, how many were read, the fields of
the last one, and whether it was reported out of order. -/
structure JoinSide where
  name : String
  rest : List String
  count : Nat := 0
  prev : Option (List String) := none
  warned : Bool := false
  deriving Inhabited

/-- A run of `join`: both inputs, the lines at hand on each side, whether a line was unpaired,
what was written, the messages, and whether it stopped at a line out of order. -/
structure JoinRun where
  side1 : JoinSide
  side2 : JoinSide
  seq1 : List (List String) := []
  seq2 : List (List String) := []
  seen : Bool := false
  out : String := ""
  err : String := ""
  stopped : Bool := false
  deriving Inhabited

namespace JoinRun

/-- The line of output for a line of each input, either of which may be missing. -/
def line (s : JoinSettings) (counts : Nat × Nat) (a b : Option (List String)) : String :=
  let outSep := String.singleton (s.sep.getD ' ')
  let field (fs : List String) (i : Nat) : String :=
    match fs[i]? with
    | some f => if f.isEmpty then s.filler.getD "" else f
    | none => s.filler.getD ""
  let keyText := match a with
    | some fs => field fs s.field1
    | none => field (b.getD []) s.field2
  let others (fs : Option (List String)) (key count : Nat) : String :=
    let fs := fs.getD []
    let n := if s.auto then count else fs.length
    String.join (((List.range n).filter (· != key)).map fun i => outSep ++ field fs i)
  if s.format.isEmpty then
    keyText ++ others a s.field1 counts.1 ++ others b s.field2 counts.2 ++ s.eol
  else
    outSep.intercalate (s.format.map fun f =>
      match f with
      | .key => keyText
      | .of 1 i => field (a.getD []) i
      | .of _ i => field (b.getD []) i) ++ s.eol

/-- Reads the next line of one input (`1` or `2`), checking its order against the line before:
its fields, or `none` at the end. -/
def readLine (s : JoinSettings) (which : Nat) (r : JoinRun) : Option (List String) × JoinRun :=
  let side := if which == 1 then r.side1 else r.side2
  match side.rest with
  | [] => (none, r)
  | l :: rest =>
    let fields := joinFields s.sep l
    let key := if which == 1 then s.field1 else s.field2
    let checking := match s.checkOrder with
      | some on => on
      | none => r.seen
    let disordered := checking && !side.warned &&
      (side.prev.map fun p => joinKeyOrder s.ignoreCase p key fields key == .gt).getD false
    let side := { side with rest, count := side.count + 1, prev := some fields,
                            warned := side.warned || disordered }
    let r := if which == 1 then { r with side1 := side } else { r with side2 := side }
    let r := if disordered then
        { r with err := r.err ++ "join: " ++ side.name ++ ":" ++ toString side.count ++
                   ": is not sorted: " ++ l ++ "\n"
                 stopped := s.checkOrder == some true }
      else r
    (some fields, r)

/-- Writes a line of output. -/
def emit (s : JoinSettings) (counts : Nat × Nat) (a b : Option (List String)) (r : JoinRun) :
    JoinRun :=
  { r with out := r.out ++ line s counts a b }

/-- Reads lines of one input onto its run while their field equals that of `other` in the other
input: the run and whether the input ended. -/
def gather (s : JoinSettings) (which : Nat) (other : List String) :
    Nat → List (List String) → JoinRun → List (List String) × Bool × JoinRun
  | 0, run, r => (run, true, r)
  | fuel + 1, run, r =>
    if r.stopped then (run, true, r)
    else
      match readLine s which r with
      | (none, r) => (run, true, r)
      | (some fs, r) =>
        let same := if which == 1 then joinKeyOrder s.ignoreCase fs s.field1 other s.field2 == .eq
          else joinKeyOrder s.ignoreCase other s.field1 fs s.field2 == .eq
        if same then gather s which other fuel (run ++ [fs]) r else (run ++ [fs], false, r)

/-- Pairs the runs at hand until an input ends. -/
def pairUp (s : JoinSettings) (counts : Nat × Nat) : Nat → JoinRun → JoinRun
  | 0, r => r
  | fuel + 1, r =>
    if r.stopped then r
    else
      match r.seq1, r.seq2 with
      | a :: _, b :: _ =>
        match joinKeyOrder s.ignoreCase a s.field1 b s.field2 with
        | .lt =>
          let r := if s.unpaired1 then emit s counts (some a) none r else r
          let (next, r) := readLine s 1 r
          pairUp s counts fuel { r with seq1 := next.toList, seen := true }
        | .gt =>
          let r := if s.unpaired2 then emit s counts none (some b) r else r
          let (next, r) := readLine s 2 r
          pairUp s counts fuel { r with seq2 := next.toList, seen := true }
        | .eq =>
          let (run1, end1, r) := gather s 1 b (r.side1.rest.length + 1) [a] r
          let (run2, end2, r) := gather s 2 a (r.side2.rest.length + 1) [b] r
          let firsts := if end1 then run1 else run1.dropLast
          let seconds := if end2 then run2 else run2.dropLast
          let r := if s.pairs && !r.stopped then
              firsts.foldl (fun r x => seconds.foldl (fun r y => emit s counts (some x) (some y) r) r) r
            else r
          pairUp s counts fuel
            { r with seq1 := if end1 then [] else run1.getLast?.toList
                     seq2 := if end2 then [] else run2.getLast?.toList }
      | _, _ => r

/-- Reads the rest of one input after the other ended, writing its lines when they are wanted
unpaired, and checking their order. -/
def drain (s : JoinSettings) (counts : Nat × Nat) (which : Nat) (wanted : Bool) :
    Nat → JoinRun → JoinRun
  | 0, r => r
  | fuel + 1, r =>
    if r.stopped then r
    else
      match readLine s which r with
      | (none, r) => r
      | (some fs, r) =>
        let r := if wanted && !r.stopped then
            (if which == 1 then emit s counts (some fs) none r else emit s counts none (some fs) r)
          else r
        let warned := if which == 1 then r.side1.warned else r.side2.warned
        if warned && !wanted then r else drain s counts which wanted fuel r

end JoinRun

/-- Joins the lines of two inputs: what is written, the messages, and whether all was well. -/
def joinLines (s : JoinSettings) (name1 name2 : String) (lines1 lines2 : List String) :
    String × String × Bool :=
  let r : JoinRun := { side1 := { name := name1, rest := lines1 }, side2 := { name := name2, rest := lines2 } }
  let (first1, r) := JoinRun.readLine s 1 r
  let (first2, r) := JoinRun.readLine s 2 r
  let counts := ((first1.map List.length).getD 0, (first2.map List.length).getD 0)
  let r := { r with seq1 := first1.toList, seq2 := first2.toList }
  let r :=
    if s.header then
      let r := if first1.isSome || first2.isSome then JoinRun.emit s counts first1 first2 r else r
      let r := { r with side1 := { r.side1 with prev := none }, side2 := { r.side2 with prev := none } }
      let (next1, r) := if first1.isSome then JoinRun.readLine s 1 r else (none, r)
      let (next2, r) := if first2.isSome then JoinRun.readLine s 2 r else (none, r)
      { r with seq1 := next1.toList, seq2 := next2.toList }
    else r
  let r := JoinRun.pairUp s counts (lines1.length + lines2.length + 2) r
  let checkTail := s.checkOrder != some false && !(r.side1.warned && r.side2.warned)
  let r :=
    match r.seq1 with
    | a :: _ =>
      if (s.unpaired1 || checkTail) && !r.stopped then
        let r := if s.unpaired1 then JoinRun.emit s counts (some a) none r else r
        let r := if !r.seq2.isEmpty then { r with seen := true } else r
        JoinRun.drain s counts 1 s.unpaired1 (lines1.length + 1) r
      else r
    | [] => r
  let r :=
    match r.seq2 with
    | b :: _ =>
      if (s.unpaired2 || checkTail) && !r.stopped then
        let r := if s.unpaired2 then JoinRun.emit s counts none (some b) r else r
        let r := if !r.seq1.isEmpty then { r with seen := true } else r
        JoinRun.drain s counts 2 s.unpaired2 (lines2.length + 1) r
      else r
    | [] => r
  if r.stopped then (r.out, r.err, false)
  else if r.side1.warned || r.side2.warned then
    (r.out, r.err ++ "join: input is not in sorted order\n", false)
  else (r.out, r.err, true)

/-- Reads a field number of `-1`, `-2` or `-j`, counted from one. -/
def joinFieldNumber (text : String) : Option Nat :=
  match text.toNat? with
  | some (n + 1) => some n
  | _ => none

/-- Reads the list of `-o`: items `0` or `FILE.FIELD` separated by commas or blanks. -/
def joinFormat (text : String) : Except String (List JoinField) :=
  let (items, cur) := text.toList.foldl (fun (acc : List String × List Char) c =>
    if c == ',' || c == ' ' || c == '\t' then (acc.1 ++ [String.ofList acc.2.reverse], [])
    else (acc.1, c :: acc.2)) ([], [])
  let items := (items ++ [String.ofList cur.reverse]).filter (!·.isEmpty)
  items.mapM fun item =>
    if item == "0" then .ok .key
    else
      match item.splitOn "." with
      | [f, n] =>
        if f != "1" && f != "2" then .error ("invalid file number in field spec: " ++ quoteName item)
        else
          match joinFieldNumber n with
          | some i => .ok (.of (if f == "1" then 1 else 2) i)
          | none => .error ("invalid field number: " ++ quoteName n)
      | _ => .error ("invalid field specifier: " ++ quoteName item)

/-- `join`: joins the lines of two sorted inputs on a field. -/
def join (inv : Invocation) : Completion :=
  let specs : List OptSpec := [
    { key := "a", short := some 'a', arg := .required },
    { key := "e", short := some 'e', arg := .required },
    { key := "i", short := some 'i', long := some "ignore-case" },
    { key := "j", short := some 'j', arg := .required },
    { key := "o", short := some 'o', arg := .required },
    { key := "t", short := some 't', arg := .required },
    { key := "v", short := some 'v', arg := .required },
    { key := "1", short := some '1', arg := .required },
    { key := "2", short := some '2', arg := .required },
    { key := "check-order", long := some "check-order" },
    { key := "nocheck-order", long := some "nocheck-order" },
    { key := "header", long := some "header" },
    { key := "z", short := some 'z', long := some "zero-terminated" },
    { key := "help", long := some "help" },
    { key := "version", long := some "version" }]
  match parseOptions specs false inv.args with
  | .error e => inv.optionFailure 1 e
  | .ok (opts, files) =>
    let fail (m : String) : Completion := inv.finish 1 "" (inv.message m)
    let settings : Except String JoinSettings :=
      opts.foldlM (fun (s : JoinSettings) (k, v) =>
        if k == "a" || k == "v" then
          if v == "1" then .ok { s with unpaired1 := true, pairs := s.pairs && k != "v" }
          else if v == "2" then .ok { s with unpaired2 := true, pairs := s.pairs && k != "v" }
          else .error ("invalid file number: " ++ quoteName v)
        else if k == "1" || k == "2" || k == "j" then
          match joinFieldNumber v with
          | some n =>
            .ok (if k == "1" then { s with field1 := n } else if k == "2" then { s with field2 := n }
              else { s with field1 := n, field2 := n })
          | none => .error ("invalid field number: " ++ quoteName v)
        else if k == "e" then .ok { s with filler := some v }
        else if k == "o" then
          if v == "auto" then .ok { s with auto := true }
          else (joinFormat v).map fun fs => { s with format := s.format ++ fs }
        else if k == "t" then
          let t : Except String Char :=
            match v.toList with
            | [] => .ok '\n'
            | [c] => .ok c
            | _ => if v == "\\0" then .ok '\x00' else .error ("multi-character tab " ++ quoteName v)
          t.bind fun t =>
            if s.sep.any (· != t) then .error "incompatible tabs" else .ok { s with sep := some t }
        else if k == "i" then .ok { s with ignoreCase := true }
        else if k == "check-order" then .ok { s with checkOrder := some true }
        else if k == "nocheck-order" then .ok { s with checkOrder := some false }
        else if k == "header" then .ok { s with header := true }
        else if k == "z" then .ok { s with eol := "\x00" }
        else .ok s) {}
    match settings with
    | .error m => fail m
    | .ok s =>
    match files with
    | [] => inv.finish 1 "" (missingOperand inv)
    | [f] => inv.finish 1 "" (inv.message ("missing operand after " ++ quoteName f) ++ inv.tryHelp)
    | [a, b] =>
      let readOne (f : String) : Except String String :=
        if f == "-" then .ok inv.input
        else (inv.read f).mapError fun e => inv.message (quoteIfNeeded f ++ ": " ++ errnoText e.errno)
      match readOne a, readOne b with
      | .error m, _ | _, .error m => inv.finish 1 "" m
      | .ok x, .ok y =>
        let records (t : String) : List String :=
          let parts := t.splitOn s.eol
          if t.isEmpty || t.endsWith s.eol then parts.dropLast else parts
        let (out, err, ok) := joinLines s a b (records x) (records y)
        { status := if ok then 0 else 1, writes := errThenOut err out, tree := inv.tree
          input := if files.contains "-" then "" else inv.input }
    | _ :: _ :: extra :: _ => inv.finish 1 "" (inv.message ("extra operand " ++ quoteName extra) ++ inv.tryHelp)

end Regress.Shell
