import Regress.Shell.Printf
import Regress.Shell.Utility.Basic
import Regress.Shell.Utility.Text
import Regress.Text.Regex

/-!
# Utilities that rework lines and characters

`tr` maps, deletes and squeezes characters; `uniq` and `tac` thin and reverse lines; `cut`
selects parts of lines; `seq` counts.

* `tr` reads its sets with ranges, classes such as `[:upper:]`, repeats `[c*n]` and backslash
  escapes; a second set shorter than the first is extended with its last character.
* Every line written ends with a line break, also the last when the input lacked one.
-/

namespace Regress.Shell

/-! ## tr -/

/-- One element of a `tr` set: a character, a range, a class, or a character repeated. -/
inductive SetItem where
  | char (c : Char)
  | range (lo hi : Char)
  | cls (name : String)
  | repeated (c : Char) (count : Option Nat)
  deriving Repr, Inhabited

/-- Reads a backslash escape of a `tr` set after the backslash: the character and the rest. -/
def trEscape : List Char → Char × List Char
  | [] => ('\\', [])
  | c :: rest =>
    if '0' ≤ c && c ≤ '7' then
      let ds := (c :: rest).takeWhile (fun d => '0' ≤ d && d ≤ '7') |>.take 3
      let v := ds.foldl (fun n d => n * 8 + (d.toNat - 48)) 0
      if v > 255 then
        let ds := ds.take 2
        (Char.ofNat (ds.foldl (fun n d => n * 8 + (d.toNat - 48)) 0), (c :: rest).drop ds.length)
      else (Char.ofNat v, (c :: rest).drop ds.length)
    else if c == 'n' then ('\n', rest) else if c == 't' then ('\t', rest)
    else if c == 'r' then ('\r', rest) else if c == 'a' then ('\x07', rest)
    else if c == 'b' then ('\x08', rest) else if c == 'f' then ('\x0c', rest)
    else if c == 'v' then ('\x0b', rest)
    else (c, rest)

/-- Reads one character of a set, with its escape. -/
def trChar : List Char → Option (Char × List Char)
  | [] => none
  | '\\' :: rest => some (trEscape rest)
  | c :: rest => some (c, rest)

/-- The class names `tr` knows. -/
def trClasses : List String :=
  ["alnum", "alpha", "blank", "cntrl", "digit", "graph", "lower", "print", "punct", "space", "upper", "xdigit"]

/-- A byte as `tr` shows it in messages: itself when it prints, else a backslash and three
octal digits. -/
def printableByte (c : Char) : String :=
  if printsInC c then String.singleton c
  else
    let n := c.toNat
    String.ofList ['\\', Char.ofNat (48 + n / 64 % 8), Char.ofNat (48 + n / 8 % 8), Char.ofNat (48 + n % 8)]

/-- Reads the items of a set, or the message for a malformed one. -/
def trItems : Nat → List Char → List SetItem → Except String (List SetItem)
  | 0, _, acc => .ok acc.reverse
  | _ + 1, [], acc => .ok acc.reverse
  | fuel + 1, '[' :: ':' :: rest, acc =>
    let name := rest.takeWhile (· != ':')
    match rest.drop name.length with
    | ':' :: ']' :: more =>
      let n := String.ofList name
      if trClasses.contains n then trItems fuel more (.cls n :: acc)
      else .error ("invalid character class " ++ quoteName n)
    | _ => trItems fuel (':' :: rest) (.char '[' :: acc)
  | fuel + 1, '[' :: '=' :: rest, acc =>
      match trChar rest with
      | some (c, '=' :: ']' :: more) => trItems fuel more (.char c :: acc)
      | _ => trItems fuel ('=' :: rest) (.char '[' :: acc)
  | fuel + 1, '[' :: rest, acc =>
    match trChar rest with
    | some (c, '*' :: more) =>
      let ds := more.takeWhile Char.isDigit
      match more.drop ds.length with
      | ']' :: after =>
        let count := if ds.isEmpty then none
          else if ds.head? == some '0' then
            some (ds.foldl (fun n d => n * 8 + (d.toNat - 48)) 0)
          else (String.ofList ds).toNat?
        let count := if count == some 0 then none else count
        trItems fuel after (.repeated c count :: acc)
      | _ => trItems fuel rest (.char '[' :: acc)
    | _ => trItems fuel rest (.char '[' :: acc)
  | fuel + 1, cs, acc =>
    match trChar cs with
    | some (c, '-' :: more) =>
      match trChar more with
      | some (hi, after) =>
        if hi < c then
          .error ("range-endpoints of \x27" ++ printableByte c ++ "-" ++ printableByte hi ++
            "\x27 are in reverse collating sequence order")
        else trItems fuel after (.range c hi :: acc)
      | none => trItems fuel ('-' :: more).tail (.char '-' :: .char c :: acc)
    | some (c, rest) => trItems fuel rest (.char c :: acc)
    | none => .ok acc.reverse

/-- The characters of a class, in order. -/
def classChars (name : String) : List Char :=
  let range (a b : Nat) : List Char := (List.range (b + 1 - a)).map fun i => Char.ofNat (a + i)
  if name == "alnum" then range 48 57 ++ range 65 90 ++ range 97 122
  else if name == "alpha" then range 65 90 ++ range 97 122
  else if name == "blank" then ['\t', ' ']
  else if name == "cntrl" then range 0 31 ++ [Char.ofNat 127]
  else if name == "digit" then range 48 57
  else if name == "graph" then range 33 126
  else if name == "lower" then range 97 122
  else if name == "print" then range 32 126
  else if name == "punct" then range 33 47 ++ range 58 64 ++ range 91 96 ++ range 123 126
  else if name == "space" then ['\t', '\n', '\x0b', '\x0c', '\r', ' ']
  else if name == "upper" then range 65 90
  else range 48 57 ++ range 65 70 ++ range 97 102

/-- The characters of a set, with a repeat of unknown count filling up to `fill` characters. -/
def setChars (items : List SetItem) (fill : Nat) : List Char :=
  let fixedLength := (items.map fun
    | .char _ => 1
    | .range lo hi => hi.toNat + 1 - lo.toNat
    | .cls n => (classChars n).length
    | .repeated _ (some n) => n
    | .repeated _ none => 0).foldl (· + ·) 0
  items.flatMap fun
    | .char c => [c]
    | .range lo hi => (List.range (hi.toNat + 1 - lo.toNat)).map fun i => Char.ofNat (lo.toNat + i)
    | .cls n => classChars n
    | .repeated c (some n) => List.replicate n c
    | .repeated c none => List.replicate (fill - fixedLength) c

/-- `tr`: translates, deletes or squeezes characters of its input. -/
def tr (inv : Invocation) : Completion :=
  let specs : List OptSpec := [
    { key := "c", short := some 'c', long := some "complement" },
    { key := "c", short := some 'C' },
    { key := "d", short := some 'd', long := some "delete" },
    { key := "s", short := some 's', long := some "squeeze-repeats" },
    { key := "t", short := some 't', long := some "truncate-set1" },
    { key := "help", long := some "help" },
    { key := "version", long := some "version" }]
  match parseOptions specs false inv.args with
  | .error e => inv.optionFailure 1 e
  | .ok (opts, operands) =>
    let delete := opts.has "d"
    let squeeze := opts.has "s"
    let complement := opts.has "c"
    let needed := if delete && !squeeze then 1 else if !delete && !squeeze then 2 else 1
    let most := if delete && !squeeze then 1 else 2
    match operands with
    | [] => inv.finish 1 "" (missingOperand inv)
    | _ =>
      if operands.length < needed then
        inv.finish 1 "" (inv.message ("missing operand after " ++ quoteName (operands.headD "")) ++
          "Two strings must be given when translating.\n" ++ inv.tryHelp)
      else if operands.length > most then
        inv.finish 1 "" (inv.message ("extra operand " ++ quoteName (operands.getD most "")) ++
          (if most == 1 then "Only one string may be given when deleting without squeezing repeats.\n" else "") ++
          inv.tryHelp)
      else
        let set1 := trItems (operands.headD "").length.succ (operands.headD "").toList []
        let set2 := (operands[1]?).map fun s => trItems s.length.succ s.toList []
        match set1, set2 with
        | .error m, _ | _, some (.error m) => inv.finish 1 "" (inv.message m)
        | .ok items1, set2 =>
          let items2 := match set2 with
            | some (.ok i) => i
            | _ => []
          let chars1 := setChars items1 0
          let inSet1 (c : Char) : Bool := chars1.contains c != complement
          let all : List Char := (List.range 256).map Char.ofNat
          let source := if complement then all.filter (!chars1.contains ·) else chars1
          let chars2 := setChars items2 source.length
          let translating := !delete && set2.isSome
          if translating && chars2.isEmpty && !source.isEmpty then
            inv.finish 1 "" (inv.message "when not truncating set1, string2 must be non-empty")
          else
            let target :=
              if opts.has "t" then chars2
              else chars2 ++ List.replicate (source.length - chars2.length) (chars2.getLastD ' ')
            let mapping := (source.zip target).reverse
            let translate (c : Char) : Char :=
              if translating then ((mapping.find? (·.1 == c)).map (·.2)).getD c else c
            let squeezeSet (c : Char) : Bool :=
              if !squeeze then false
              else if set2.isSome && !delete || (delete && set2.isSome) then chars2.contains c
              else inSet1 c
            let (out, _) := inv.input.toList.foldl (fun (acc : List Char × Option Char) c =>
              let (out, last) := acc
              if delete && inSet1 c then acc
              else
                let d := translate c
                if squeezeSet d && last == some d then acc else (d :: out, some d)) ([], none)
            { status := 0, writes := outThenErr (String.ofList out.reverse) "", tree := inv.tree, input := "" }

/-! ## uniq, tac -/

/-- `uniq`: writes its input without repeated adjacent lines. -/
def uniq (inv : Invocation) : Completion :=
  let specs : List OptSpec := [
    { key := "c", short := some 'c', long := some "count" },
    { key := "d", short := some 'd', long := some "repeated" },
    { key := "D", short := some 'D' },
    { key := "D", long := some "all-repeated", arg := .optional },
    { key := "f", short := some 'f', long := some "skip-fields", arg := .required },
    { key := "group", long := some "group", arg := .optional },
    { key := "i", short := some 'i', long := some "ignore-case" },
    { key := "s", short := some 's', long := some "skip-chars", arg := .required },
    { key := "u", short := some 'u', long := some "unique" },
    { key := "w", short := some 'w', long := some "check-chars", arg := .required },
    { key := "z", short := some 'z', long := some "zero-terminated" },
    { key := "help", long := some "help" },
    { key := "version", long := some "version" }]
  match parseOptions specs false inv.args with
  | .error e => inv.optionFailure 1 e
  | .ok (opts, operands) =>
    let input : Except String String := match operands.head? with
      | none | some "-" => .ok inv.input
      | some f => (inv.read f).mapError fun (e : FsError) => inv.message (quoteIfNeeded f ++ ": " ++ errnoText e.errno)
    match input with
    | .error m => inv.finish 1 "" m
    | .ok text =>
      let skipFields := ((opts.last? "f").bind String.toNat?).getD 0
      let skipChars := ((opts.last? "s").bind String.toNat?).getD 0
      let width := (opts.last? "w").bind String.toNat?
      let keyOf (l : String) : String :=
        let cs := l.toList
        let cs := (List.range skipFields).foldl (fun (cs : List Char) _ =>
          let cs := cs.dropWhile fun c => c == ' ' || c == '\t'
          cs.dropWhile fun c => c != ' ' && c != '\t') cs
        let cs := cs.drop skipChars
        let cs := match width with
          | some w => cs.take w
          | none => cs
        let k := String.ofList cs
        if opts.has "i" then lowerAscii k else k
      -- the runs of lines with equal keys, each in order
      let groups := (splitLines text).foldl (fun (acc : List (List String)) l =>
        match acc with
        | g :: rest => if keyOf (g.headD "") == keyOf l then (l :: g) :: rest else [l] :: acc
        | [] => [[l]]) [] |>.reverse |>.map List.reverse
      let method (key : String) (choices : List String) (dflt : String) : Option String :=
        match opts.last? key with
        | some "" | none => some dflt
        | some v =>
          match choices.filter (v.isPrefixOf ·) with
          | [c] => some c
          | cs => if cs.contains v then some v else none
      let invalid (key : String) (choices : List String) : String :=
        inv.message ("invalid argument " ++ quoteName ((opts.last? key).getD "") ++ " for " ++
          quoteName ("--" ++ (if key == "D" then "all-repeated" else key))) ++
          "Valid arguments are:\n" ++ String.join (choices.map fun c => "  - " ++ quoteName c ++ "\n") ++
          inv.tryHelp
      let groupChoices := ["prepend", "append", "separate", "both"]
      let repeatChoices := ["none", "prepend", "separate"]
      let result : Except String String :=
        if opts.has "group" then
          if opts.has "c" || opts.has "d" || opts.has "D" || opts.has "u" then
            .error (inv.message "--group is mutually exclusive with -c/-d/-D/-u" ++ inv.tryHelp)
          else
            match method "group" groupChoices "separate" with
            | none => .error (invalid "group" groupChoices)
            | some m =>
              let body := groups.zipIdx.map fun (g, i) =>
                (if m == "prepend" || m == "both" || (i > 0 && (m == "append" || m == "separate")) then "\n" else "") ++
                  String.join (g.map (· ++ "\n"))
              .ok (String.join body ++ (if (m == "append" || m == "both") && !groups.isEmpty then "\n" else ""))
        else if opts.has "D" then
          if opts.has "c" then
            .error (inv.message "printing all duplicated lines and repeat counts is meaningless" ++ inv.tryHelp)
          else
            match method "D" repeatChoices "none" with
            | none => .error (invalid "D" repeatChoices)
            | some m =>
              let repeated := groups.filter (·.length > 1)
              .ok (String.join (repeated.zipIdx.map fun (g, i) =>
                (if m == "prepend" || (m == "separate" && i > 0) then "\n" else "") ++
                  String.join (g.map (· ++ "\n"))))
        else
          let keep := groups.filter fun g =>
            if opts.has "d" then g.length > 1 else if opts.has "u" then g.length == 1 else true
          .ok (String.join (keep.map fun g =>
            let l := g.headD ""
            if opts.has "c" then
              let s := toString g.length
              String.ofList (List.replicate (7 - s.length) ' ') ++ s ++ " " ++ l ++ "\n"
            else l ++ "\n"))
      match result with
      | .error m => inv.finish 1 "" m
      | .ok out =>
      match operands[1]? with
      | some path =>
        match inv.tree.writeFile inv.cwd path out with
        | .ok t => { status := 0, tree := t, input := "" }
        | .error e => inv.finish 1 "" (inv.message (quoteIfNeeded path ++ ": " ++ errnoText e.errno))
      | none => { status := 0, writes := outThenErr out "", tree := inv.tree, input := if operands.isEmpty || operands.head? == some "-" then "" else inv.input }

/-- Splits a text at each occurrence of a separator, from the left: the pieces between them. -/
def splitAtSeparator (sep : List Char) (text : List Char) : List (List Char) :=
  let rec go : Nat → List Char → List Char → List (List Char)
    | 0, cur, rest => [cur.reverse ++ rest]
    | fuel + 1, cur, rest =>
      match rest with
      | [] => [cur.reverse]
      | c :: more =>
        if !sep.isEmpty && sep.isPrefixOf rest then cur.reverse :: go fuel [] (rest.drop sep.length)
        else go fuel (c :: cur) more
  go (text.length + 1) [] text

/-- The records of a text for `tac`, last first: each ends with its separator, or with
`before` begins with it. -/
def tacRecords (sep : String) (before : Bool) (text : String) : String :=
  let pieces := (splitAtSeparator sep.toList text.toList).map String.ofList
  if before then
    match pieces with
    | [] => ""
    | first :: more => String.join ((more.map (sep ++ ·)).reverse) ++ first
  else
    let records := match pieces.reverse with
      | [] => []
      | last :: earlier => (if last.isEmpty then [] else [last]) ++ earlier.map (· ++ sep)
    String.join records

/-- The records of a text for `tac -r`, last first. The separators are the matches of `r`
found from the end backwards: each is the longest match at the last place before the previous
separator where one starts and ends before it. -/
def tacRegexRecords (r : Regex) (before : Bool) (text : String) : String :=
  let cs := text.toList.toArray
  let piece (a b : Nat) : List Char := (cs.extract a b).toList
  let rec go : Nat → Nat → Nat → List Char → List Char
    | 0, _, pastEnd, acc => acc ++ piece 0 pastEnd
    | fuel + 1, limit, pastEnd, acc =>
      let sub := cs.extract 0 limit
      let found := (List.range limit).reverse.findSome? fun p =>
        (r.longestAt sub p).map fun (e, _) => (p, e)
      match found with
      | none => acc ++ piece 0 pastEnd
      | some (s, e) =>
        let cut := if before then s else e
        go fuel s cut (acc ++ piece cut pastEnd)
  String.ofList (go (cs.size + 1) cs.size cs.size [])

/-- `tac`: writes the records of its inputs last first; records end with a newline, or with the
separator of `-s` (a regular expression with `-r`), and with `-b` begin with it. -/
def tac (inv : Invocation) : Completion :=
  let specs : List OptSpec := [
    { key := "b", short := some 'b', long := some "before" },
    { key := "r", short := some 'r', long := some "regex" },
    { key := "s", short := some 's', long := some "separator", arg := .required },
    { key := "help", long := some "help" },
    { key := "version", long := some "version" }]
  match parseOptions specs false inv.args with
  | .error e => inv.optionFailure 1 e
  | .ok (opts, files) =>
    let sep := (opts.last? "s").getD "\n"
    let regex : Except String (Option Regex) :=
      if opts.has "r" then (Regex.parseWith Regex.basicSyntax sep).map some else .ok none
    if sep.isEmpty then inv.finish 1 "" (inv.message "separator cannot be empty")
    else
    match regex with
    | .error m => inv.finish 1 "" (inv.message m)
    | .ok regex =>
      let files := if files.isEmpty then ["-"] else files
      -- the output is held until the end, so the messages come first
      let (out, err) := files.foldl (fun (acc : String × String) f =>
        let text := if f == "-" then .ok inv.input else inv.read f
        match text with
        | .ok t =>
          let records := match regex with
            | some r => tacRegexRecords r (opts.has "b") t
            | none => tacRecords sep (opts.has "b") t
          (acc.1 ++ records, acc.2)
        | .error e =>
          if e.errno == .isDir then (acc.1, acc.2 ++ inv.message (quoteIfNeeded f ++ ": read error: " ++ errnoText e.errno))
          else (acc.1, acc.2 ++ inv.message ("failed to open " ++ quoteAlways f ++ " for reading: " ++ errnoText e.errno)))
        ("", "")
      { status := if err.isEmpty then 0 else 1, writes := errThenOut err out, tree := inv.tree
        input := if files.contains "-" then "" else inv.input }

/-! ## cut -/

/-- A range of positions of `cut`, from one (1-based) to another or to the end. -/
abbrev CutRange := Nat × Option Nat

/-- Where the reading of a `cut` list is: the start of a range, the number being read (and
whether it has digits), whether a dash was seen, and the ranges so far. -/
structure CutScan where
  initial : Nat := 1
  value : Nat := 0
  lhs : Bool := false
  rhs : Bool := false
  dash : Bool := false
  ranges : List CutRange := []

/-- Reads a list of `cut` positions (`positions` for bytes and characters, else fields): the
ranges, or the message. Numbers are separated by commas or blanks, and a range is `m-n`, `-n`
or `m-`. -/
def cutRanges (positions : Bool) (list : String) : Except String (List CutRange) :=
  let fromOne := if positions then "byte/character positions are numbered from 1" else "fields are numbered from 1"
  let close (st : CutScan) : Except String CutScan :=
    if st.dash then
      if !st.lhs && !st.rhs then .error "invalid range with no endpoint: -"
      else if !st.rhs then .ok { st with ranges := st.ranges ++ [(st.initial, none)], value := 0, dash := false }
      else if st.value < st.initial then .error "invalid decreasing range"
      else .ok { st with ranges := st.ranges ++ [(st.initial, some st.value)], value := 0, dash := false }
    else if st.value == 0 then .error fromOne
    else .ok { st with ranges := st.ranges ++ [(st.value, some st.value)], value := 0 }
  let rec go : List Char → CutScan → Except String (List CutRange)
    | [], st => do
      let st ← close st
      if st.ranges.isEmpty then
        .error (if positions then "missing list of byte/character positions" else "missing list of fields")
      else .ok st.ranges
    | c :: rest, st =>
      if c == '-' then
        if st.dash then .error (if positions then "invalid byte or character range" else "invalid field range")
        else if st.lhs && st.value == 0 then .error fromOne
        else go rest { st with dash := true, initial := if st.lhs then st.value else 1, value := 0 }
      else if c == ',' || c == ' ' || c == '\t' then
        match close st with
        | .ok st => go rest { st with lhs := false, rhs := false }
        | .error m => .error m
      else if c.isDigit then
        let st := if st.dash then { st with rhs := true } else { st with lhs := true }
        go rest { st with value := st.value * 10 + (c.toNat - 48) }
      else
        .error ((if positions then "invalid byte/character position " else "invalid field value ") ++
          quoteName (String.ofList (c :: rest)))
  go list.toList {}

/-- Whether a position is selected. -/
def cutSelects (rs : List CutRange) (i : Nat) : Bool :=
  rs.any fun (lo, hi) => lo ≤ i && hi.all (i ≤ ·)

/-- `cut`: selects bytes, characters or fields of each line. -/
def cut (inv : Invocation) : Completion :=
  let specs : List OptSpec := [
    { key := "b", short := some 'b', long := some "bytes", arg := .required },
    { key := "c", short := some 'c', long := some "characters", arg := .required },
    { key := "d", short := some 'd', long := some "delimiter", arg := .required },
    { key := "f", short := some 'f', long := some "fields", arg := .required },
    { key := "n", short := some 'n' },
    { key := "complement", long := some "complement" },
    { key := "s", short := some 's', long := some "only-delimited" },
    { key := "output-delimiter", long := some "output-delimiter", arg := .required },
    { key := "z", short := some 'z', long := some "zero-terminated" },
    { key := "help", long := some "help" },
    { key := "version", long := some "version" }]
  match parseOptions specs false inv.args with
  | .error e => inv.optionFailure 1 e
  | .ok (opts, files) =>
    let modes := opts.filter fun (k, _) => k == "b" || k == "c" || k == "f"
    let fail (m : String) : Completion := inv.finish 1 "" (inv.message m ++ inv.tryHelp)
    match modes.getLast? with
    | none => fail "you must specify a list of bytes, characters, or fields"
    | some (mode, list) =>
      if modes.length > 1 then fail "only one type of list may be specified"
      else if (opts.all "d").any (·.length > 1) then fail "the delimiter must be a single character"
      else if opts.has "d" && mode != "f" then
        fail "an input delimiter may be specified only when operating on fields"
      else if opts.has "s" && mode != "f" then
        fail "suppressing non-delimited lines makes sense\n\tonly when operating on fields"
      else
        let delim := (opts.last? "d").getD "\t"
        let delim := if delim.isEmpty then "\x00" else delim
        match cutRanges (mode != "f") list with
          | .error m => fail m
          | .ok ranges =>
            let sel (i : Nat) : Bool := cutSelects ranges i != opts.has "complement"
            let d := delim.toList.headD '\t'
            let outDelim := (opts.last? "output-delimiter").getD (if mode == "f" then delim else "")
            let cutLine (l : String) : Option String :=
              if mode == "f" then
                if !l.toList.contains d then (if opts.has "s" then none else some l)
                else
                  let fields := l.splitOn (String.singleton d)
                  some (outDelim.intercalate ((fields.zipIdx.filter fun (_, i) => sel (i + 1)).map (·.1)))
              else
                some (String.ofList ((l.toList.zipIdx.filter fun (_, i) => sel (i + 1)).map (·.1)))
            let files := if files.isEmpty then ["-"] else files
            let (writes, failed) := files.foldl (fun (acc : List Write × Bool) f =>
              let text := if f == "-" then .ok inv.input else inv.read f
              match text with
              | .ok t => (addOut acc.1 (String.join ((splitLines t).filterMap fun l => (cutLine l).map (· ++ "\n"))), acc.2)
              | .error e => (addErr acc.1 (inv.message (quoteIfNeeded f ++ ": " ++ errnoText e.errno)), true)) ([], false)
            { status := if failed then 1 else 0, writes, tree := inv.tree
              input := if files.contains "-" then "" else inv.input }

/-! ## seq -/

/-- A decimal number as `seq` reads it, with an optional exponent after `e`: its value scaled
by ten to the number of decimals it is written with, and that number. The decimals are those
after the point less the exponent, and none when the exponent is larger. -/
def seqNumber (s : String) : Option (Int × Nat) :=
  let cs := s.toList
  let (neg, cs) := match cs with
    | '-' :: r => (true, r)
    | '+' :: r => (false, r)
    | r => (false, r)
  let whole := cs.takeWhile Char.isDigit
  let rest := cs.drop whole.length
  let (frac, rest) := match rest with
    | '.' :: r => (r.takeWhile Char.isDigit, r.drop (r.takeWhile Char.isDigit).length)
    | r => ([], r)
  let exponent : Option Int := match rest with
    | [] => some 0
    | e :: r =>
      if e != 'e' && e != 'E' then none
      else
        let (eneg, ds) := match r with
          | '-' :: d => (true, d)
          | '+' :: d => (false, d)
          | d => (false, d)
        if ds.isEmpty || !ds.all Char.isDigit then none
        else
          let v : Int := ((String.ofList ds).toNat?.getD 0 : Nat)
          some (if eneg then -v else v)
  match exponent with
  | none => none
  | some x =>
    if whole.isEmpty && frac.isEmpty then none
    else
      let m : Nat := (String.ofList (whole ++ frac)).toNat?.getD 0
      -- the value is m · 10^(x - decimals)
      let shift : Int := x - (frac.length : Int)
      let places : Nat := (-shift).toNat
      let v : Int := (m * Nat.pow 10 (shift + (places : Int)).toNat : Nat)
      some (if neg then -v else v, places)

/-- Writes a scaled number with `places` decimals. -/
def showScaled (v : Int) (places : Nat) : String :=
  if places == 0 then toString v
  else
    let a := v.natAbs
    let p := Nat.pow 10 places
    let frac := toString (a % p)
    (if v < 0 then "-" else "") ++ toString (a / p) ++ "." ++
      String.ofList (List.replicate (places - frac.length) '0') ++ frac

/-- `rev`: writes each line of its inputs with its characters in reverse order; a last line
without a break stays without one. An input that cannot be opened is reported and skipped. -/
def rev (inv : Invocation) : Completion :=
  let specs : List OptSpec := [
    { key := "0", short := some '0', long := some "zero" },
    { key := "h", short := some 'h', long := some "help" },
    { key := "V", short := some 'V', long := some "version" }]
  match parseOptions specs false inv.args with
  | .error e => inv.optionFailure 1 e
  | .ok (opts, files) =>
    let eol := if opts.has "0" then "\x00" else "\n"
    let reversed (t : String) : String :=
      eol.intercalate ((t.splitOn eol).map fun l => String.ofList l.toList.reverse)
    let files := if files.isEmpty then ["-"] else files
    -- the output is held until the end, so the messages come first
    let (out, err) := files.foldl (fun (acc : String × String) f =>
      let text := if f == "-" then .ok inv.input else inv.read f
      match text with
      | .ok t => (acc.1 ++ reversed t, acc.2)
      | .error e =>
        if e.errno == .isDir then (acc.1, acc.2 ++ inv.message (f ++ ": " ++ errnoText e.errno))
        else (acc.1, acc.2 ++ inv.message ("cannot open " ++ f ++ ": " ++ errnoText e.errno))) ("", "")
    { status := if err.isEmpty then 0 else 1, writes := errThenOut err out, tree := inv.tree
      input := if files.contains "-" then "" else inv.input }

/-- Literal text of a format up to its first lone `%`, with `%%` read as `%`: the text and what
follows that `%`, if there is one. -/
def splitAtDirective : Nat → List Char → List Char → List Char × Option (List Char)
  | 0, _, acc => (acc.reverse, none)
  | _ + 1, [], acc => (acc.reverse, none)
  | fuel + 1, '%' :: '%' :: rest, acc => splitAtDirective fuel rest ('%' :: acc)
  | _ + 1, '%' :: rest, acc => (acc.reverse, some rest)
  | fuel + 1, c :: rest, acc => splitAtDirective fuel rest (c :: acc)

/-- Reads the format of `seq -f`: the text before its one floating point directive, the
directive and the text after it; or the message for why the format is refused. -/
def seqFormat (fmt : String) : Except String (String × Directive × String) :=
  let named := "format " ++ quoteName fmt
  match splitAtDirective (fmt.length + 1) fmt.toList [] with
  | (_, none) => .error (named ++ " has no % directive")
  | (pre, some rest) =>
    let flags := rest.takeWhile fun c => "-+#0 \x27".toList.contains c
    let rest := rest.drop flags.length
    let wd := rest.takeWhile Char.isDigit
    let rest := rest.drop wd.length
    let (precision, rest) : Option Nat × List Char := match rest with
      | '.' :: r =>
        let p := r.takeWhile Char.isDigit
        (some ((String.ofList p).toNat?.getD 0), r.drop p.length)
      | r => (none, r)
    let rest := match rest with
      | 'L' :: r => r
      | r => r
    match rest with
    | [] => .error (named ++ " ends in %")
    | c :: after =>
      if !"efgaEFGA".toList.contains c then
        .error (named ++ " has unknown %" ++ String.singleton c ++ " directive")
      else
        match splitAtDirective (after.length + 1) after [] with
        | (post, none) =>
          let width := if wd.isEmpty then none else (String.ofList wd).toNat?
          .ok (String.ofList pre, { flags, width, precision, conv := c }, String.ofList post)
        | _ => .error (named ++ " has too many % directives")

/-- `seq`: writes numbers from the first to the last by the increment, as decimals with as
many places as the first number and the increment have, or by the format of `-f`. -/
def seq (inv : Invocation) : Completion :=
  let specs : List OptSpec := [
    { key := "f", short := some 'f', long := some "format", arg := .required },
    { key := "s", short := some 's', long := some "separator", arg := .required },
    { key := "w", short := some 'w', long := some "equal-width" },
    { key := "help", long := some "help" },
    { key := "version", long := some "version" }]
  -- a negative number is an operand, not an option
  let isNumberArg (a : String) : Bool := a.startsWith "-" && (seqNumber a).isSome
  let (optArgs, rest) := (inv.args.takeWhile fun a => !isNumberArg a, inv.args.dropWhile fun a => !isNumberArg a)
  match parseOptions specs false optArgs with
  | .error e => inv.optionFailure 1 e
  | .ok (opts, operands) =>
    let operands := operands ++ rest
    if operands.isEmpty then inv.finish 1 "" (missingOperand inv)
    else if operands.length > 3 then
      inv.finish 1 "" (inv.message ("extra operand " ++ quoteName (operands.getD 3 "")) ++ inv.tryHelp)
    else
      let format : Except String (Option (String × Directive × String)) :=
        match opts.last? "f" with
        | some fmt => (seqFormat fmt).map some
        | none => .ok none
      match format with
      | .error m => inv.finish 1 "" (inv.message m)
      | .ok format =>
      if format.isSome && opts.has "w" then
        inv.finish 1 "" (inv.message "format string may not be specified when printing equal width strings" ++
          inv.tryHelp)
      else
      match operands.find? fun a => (seqNumber a).isNone with
      | some bad => inv.finish 1 "" (inv.message ("invalid floating point argument: " ++ quoteName bad) ++ inv.tryHelp)
      | none =>
        let nums := operands.filterMap seqNumber
        let (first, step, last) := match nums with
          | [l] => ((1, 0), (1, 0), l)
          | [f, l] => (f, (1, 0), l)
          | [f, s, l] => (f, s, l)
          | _ => ((1, 0), (1, 0), (1, 0))
        let places := max first.2 step.2
        let scale (x : Int × Nat) : Int := x.1 * (Nat.pow 10 (places - x.2) : Nat)
        let a := scale first
        let d := scale step
        let b := last.1 * (Nat.pow 10 places : Nat) / (Nat.pow 10 last.2 : Nat)
        if d == 0 then
          inv.finish 1 "" (inv.message ("invalid Zero increment value: " ++ quoteName (operands.getD 1 "")) ++ inv.tryHelp)
        else
          let count : Nat := if d > 0 then (if b < a then 0 else ((b - a) / d).toNat + 1)
            else (if a < b then 0 else ((a - b) / (-d)).toNat + 1)
          let values := (List.range count).map fun (i : Nat) => showScaled (a + d * (i : Int)) places
          let values := match format with
            | some (pre, dir, post) => values.map fun v => pre ++ formatFloatWith true dir (floatArg v).1 ++ post
            | none => values
          let width := values.foldl (fun w v => max w v.length) 0
          let values := if opts.has "w" then values.map fun v =>
              if v.startsWith "-" then "-" ++ String.ofList (List.replicate (width - v.length) '0') ++ (v.drop 1).toString
              else String.ofList (List.replicate (width - v.length) '0') ++ v
            else values
          let sep := (opts.last? "s").getD "\n"
          let out := if values.isEmpty then "" else sep.intercalate values ++ "\n"
          inv.finish 0 out ""

end Regress.Shell
