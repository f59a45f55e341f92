import Regress.Shell.Utility.Basic
import Regress.Shell.Utility.Count

/-!
# od

`od` writes its input's bytes in blocks of sixteen, each block on a line that starts with its
offset, once for each output type asked for. The types are named characters (`a`), characters
with C escapes (`c`), and signed, unsigned, octal or hexadecimal numbers of one, two, four or
eight bytes, read little end first. Without a type the bytes are shown as octal numbers of two
bytes.

* Every field of a type is as wide as its widest value. When several types are shown, each
  line of a block is padded to the width of the widest, the padding spread over its fields, so
  that the columns of all types line up.
* A block equal to the one before it is written as a single `*` (unless `-v`), and the last
  line is the offset past the input.
* A last block shorter than the rest is filled with zero bytes for the numbers, and only the
  fields holding input are written.
-/

namespace Regress.Shell

/-- What a field of `od` shows. -/
inductive DumpKind where
  | named
  | char
  | signed
  | unsigned
  | octal
  | hex
  deriving Repr, DecidableEq, Inhabited

/-- An output type of `od`: what its fields show, how many bytes each takes, and whether the
line ends with the printable bytes between `>` and `<`. -/
structure DumpType where
  kind : DumpKind
  size : Nat := 1
  trailer : Bool := false
  deriving Repr, Inhabited

/-- The width of a field of a type: the length of its widest value. -/
def DumpType.width (t : DumpType) : Nat :=
  match t.kind with
  | .named | .char => 3
  | .octal => (8 * t.size + 2) / 3
  | .hex => 2 * t.size
  | .unsigned => (toString (Nat.pow 2 (8 * t.size) - 1)).length
  | .signed => (toString (Nat.pow 2 (8 * t.size - 1))).length + 1

/-- The names `od -t a` gives the control characters and the space. -/
def controlNames : List String :=
  ["nul", "soh", "stx", "etx", "eot", "enq", "ack", "bel", "bs", "ht", "nl", "vt", "ff", "cr",
   "so", "si", "dle", "dc1", "dc2", "dc3", "dc4", "nak", "syn", "etb", "can", "em", "sub", "esc",
   "fs", "gs", "rs", "us", "sp"]

/-- Digits of a number in a base, at least `width` of them. -/
def paddedDigits (base n width : Nat) : String :=
  let ds := Nat.toDigits base n
  String.ofList (List.replicate (width - ds.length) '0' ++ ds)

/-- The value of a field: the bytes, little end first. -/
def littleEndian (bytes : List Nat) : Nat :=
  bytes.foldr (fun b acc => acc * 256 + b) 0

/-- The text of one field of a type, before padding to its width. -/
def DumpType.show (t : DumpType) (bytes : List Nat) : String :=
  let v := littleEndian bytes
  match t.kind with
  | .named =>
    let b := v % 128
    if b == 127 then "del"
    else if b ≤ 32 then controlNames.getD b "?"
    else String.singleton (Char.ofNat b)
  | .char =>
    if v == 0 then "\\0" else if v == 7 then "\\a" else if v == 8 then "\\b"
    else if v == 12 then "\\f" else if v == 10 then "\\n" else if v == 13 then "\\r"
    else if v == 9 then "\\t" else if v == 11 then "\\v"
    else if 32 ≤ v && v < 127 then String.singleton (Char.ofNat v)
    else paddedDigits 8 v 3
  | .octal => paddedDigits 8 v t.width
  | .hex => paddedDigits 16 v t.width
  | .unsigned => toString v
  | .signed =>
    let half := Nat.pow 2 (8 * t.size - 1)
    if v ≥ half then "-" ++ toString (2 * half - v) else toString v

/-- Text right-aligned in a field of a width. -/
def alignRight (width : Nat) (s : String) : String :=
  String.ofList (List.replicate (width - s.length) ' ') ++ s

/-- One line of a block for a type: its fields, each as wide as the type's width plus its share
of the padding `pad`, for the `count` bytes of input the block holds. -/
def dumpLine (t : DumpType) (perBlock pad : Nat) (block : List Nat) (count : Nat) : String :=
  let fields := perBlock / t.size
  let shown := (count + t.size - 1) / t.size
  let rec go : Nat → Nat → List Nat → Nat → String → String
    | 0, _, _, _, acc => acc
    | i + 1, remaining, bytes, printed, acc =>
      if printed ≥ shown then acc
      else
        let next := pad * i / fields
        let width := remaining - next + t.width
        go i next (bytes.drop t.size) (printed + 1) (acc ++ alignRight width (t.show (bytes.take t.size)))
  let body := go fields pad block 0 ""
  if t.trailer then
    let blank := fields - shown
    let fill := blank * t.width + pad * blank / fields
    body ++ String.ofList (List.replicate fill ' ') ++ "  >" ++
      String.ofList ((block.take count).map fun b =>
        if 32 ≤ b && b < 127 then Char.ofNat b else '.') ++ "<"
  else body

/-- Reads a type of `-t`: the types it names, or the message for a bad one. -/
def readDumpTypes (spec : String) : Except String (List DumpType) :=
  let sizeOf (cs : List Char) : Option Nat × List Char :=
    match cs with
    | 'C' :: rest => (some 1, rest)
    | 'S' :: rest => (some 2, rest)
    | 'I' :: rest => (some 4, rest)
    | 'L' :: rest => (some 8, rest)
    | _ =>
      let ds := cs.takeWhile Char.isDigit
      if ds.isEmpty then (none, cs) else ((String.ofList ds).toNat?, cs.drop ds.length)
  let rec go : Nat → List Char → List DumpType → Except String (List DumpType)
    | 0, _, acc => .ok acc
    | _ + 1, [], acc => .ok acc
    | fuel + 1, c :: rest, acc =>
      let kind? : Option DumpKind :=
        if c == 'a' then some .named else if c == 'c' then some .char
        else if c == 'd' then some .signed else if c == 'u' then some .unsigned
        else if c == 'o' then some .octal else if c == 'x' then some .hex else none
      match kind? with
      | none =>
        .error ("invalid character \x27" ++ String.singleton c ++ "\x27 in type string " ++ quoteName spec)
      | some kind =>
        let (size, rest) : Option Nat × List Char :=
          if kind == .named || kind == .char then (some 1, rest) else sizeOf rest
        let size := size.getD 4
        if !([1, 2, 4, 8].contains size) then
          .error ("invalid type string " ++ quoteName spec ++ ";\nthis system doesn\x27t provide a " ++
            toString size ++ "-byte integral type")
        else
          let (trailer, rest) := match rest with
            | 'z' :: more => (true, more)
            | _ => (false, rest)
          go fuel rest (acc ++ [({ kind, size, trailer } : DumpType)])
  go (spec.length + 1) spec.toList []

/-- The options of `od`. -/
def odOptions : List OptSpec := [
  { key := "A", short := some 'A', long := some "address-radix", arg := .required },
  { key := "j", short := some 'j', long := some "skip-bytes", arg := .required },
  { key := "N", short := some 'N', long := some "read-bytes", arg := .required },
  { key := "t", short := some 't', long := some "format", arg := .required },
  { key := "v", short := some 'v', long := some "output-duplicates" },
  { key := "w", short := some 'w', long := some "width", arg := .optional },
  { key := "S", short := some 'S', long := some "strings", arg := .required },
  { key := "endian", long := some "endian", arg := .required },
  { key := "a", short := some 'a' },
  { key := "b", short := some 'b' },
  { key := "c", short := some 'c' },
  { key := "d", short := some 'd' },
  { key := "D", short := some 'D' },
  { key := "f", short := some 'f' },
  { key := "i", short := some 'i' },
  { key := "I", short := some 'I' },
  { key := "l", short := some 'l' },
  { key := "L", short := some 'L' },
  { key := "o", short := some 'o' },
  { key := "O", short := some 'O' },
  { key := "s", short := some 's' },
  { key := "x", short := some 'x' },
  { key := "X", short := some 'X' },
  { key := "help", long := some "help" },
  { key := "version", long := some "version" }]

/-- The types the short options of `od` stand for. -/
def shortDumpType (key : String) : Option DumpType :=
  if key == "a" then some { kind := .named }
  else if key == "b" then some { kind := .octal }
  else if key == "c" then some { kind := .char }
  else if key == "d" then some { kind := .unsigned, size := 2 }
  else if key == "D" then some { kind := .unsigned, size := 4 }
  else if key == "i" || key == "I" || key == "L" then some { kind := .signed, size := if key == "i" then 4 else 8 }
  else if key == "l" then some { kind := .signed, size := 8 }
  else if key == "o" then some { kind := .octal, size := 2 }
  else if key == "O" then some { kind := .octal, size := 4 }
  else if key == "s" then some { kind := .signed, size := 2 }
  else if key == "x" then some { kind := .hex, size := 2 }
  else if key == "X" then some { kind := .hex, size := 4 }
  else none

/-- The offset of a line in a radix, as `od` writes it. -/
def dumpOffset (radix : Char) (n : Nat) : String :=
  if radix == 'd' then paddedDigits 10 n 7
  else if radix == 'x' then paddedDigits 16 n 6
  else if radix == 'n' then ""
  else paddedDigits 8 n 7

/-- The dump of `bytes` starting at offset `start`, block by block: for each block of
`perBlock` bytes its lines, once for each type, or a `*` for a run of repeated blocks unless
`all` (nothing for the rest of the run); then the line with the final offset. -/
def dumpBlocks (types : List DumpType) (radix : Char) (perBlock : Nat) (all : Bool) (start : Nat)
    (bytes : List Nat) : List String × String :=
  let widest := types.foldl (fun m t => max m ((t.width + 1) * (perBlock / t.size))) 0
  let block (offset : Nat) (chunk : List Nat) : String :=
    let count := chunk.length
    let filled := chunk ++ List.replicate (perBlock - count) 0
    String.join (types.zipIdx.map fun (t, i) =>
      let pad := widest - t.width * (perBlock / t.size)
      let lead := if i == 0 then dumpOffset radix offset
        else String.ofList (List.replicate (dumpOffset radix offset).length ' ')
      lead ++ dumpLine t perBlock pad filled count ++ "\n")
  let rec go : Nat → Nat → List Nat → Option (List Nat) → Bool → List String → List String × String
    | 0, _, _, _, _, acc => (acc.reverse, "")
    | _ + 1, offset, [], _, _, acc =>
      (acc.reverse, if radix == 'n' then "" else dumpOffset radix offset ++ "\n")
    | fuel + 1, offset, rest, previous, starred, acc =>
      let chunk := rest.take perBlock
      let more := rest.drop perBlock
      if !all && chunk.length == perBlock && previous == some chunk then
        go fuel (offset + perBlock) more previous true ((if starred then "" else "*\n") :: acc)
      else go fuel (offset + chunk.length) more (some chunk) false (block offset chunk :: acc)
  go (bytes.length + 2) start bytes none false []

/-- How `od` reads its byte counts: in any base, with the suffixes of sizes. -/
def odCount : CountStyle :=
  { anyBase := true, suffixes := "bEGKkMmPTYZ".toList, powerTails := true }

/-- The first option of `od` whose value it refuses, in the order given, and its message. -/
def odOptionTrouble (opts : OptList) : Option String :=
  opts.findSome? fun (k, v) =>
    if k == "A" then
      match v.toList.head? with
      | some c =>
        if "doxn".toList.contains c then none
        else some ("invalid output address radix \x27" ++ String.singleton c ++ "\x27; it must be one character from [doxn]")
      | none => some "invalid output address radix \x27\x27; it must be one character from [doxn]"
    else if k == "j" || k == "N" || k == "S" then
      match readCountIn odCount v with
      | .ok _ => none
      | .error e => some (argumentTrouble ("-" ++ k) v e)
    else if k == "w" && !v.isEmpty then
      match readCountIn {} v with
      | .ok _ => none
      | .error e => some (argumentTrouble "-w" v e)
    else none

/-- `od`: writes the bytes of its inputs, or of standard input, in the types asked for.

It opens its inputs one after the other as it reads: the message for one it cannot open comes
when reading reaches it, after the blocks before it, and one it never reaches is never opened.
When none opens it writes nothing more. -/
def od (inv : Invocation) : Completion :=
  match parseOptions odOptions false inv.args with
  | .error e => inv.optionFailure 1 e
  | .ok (opts, files) =>
    match odOptionTrouble opts with
    | some m => inv.finish 1 "" (inv.message m)
    | none =>
    let radix := ((opts.last? "A").bind (·.toList.head?)).getD 'o'
    let typed : Except String (List DumpType) := opts.foldl (fun acc (k, v) =>
      acc.bind fun ts =>
        if k == "t" then (readDumpTypes v).map (ts ++ ·)
        else match shortDumpType k with
          | some t => .ok (ts ++ [t])
          | none => .ok ts) (.ok [])
    match typed with
    | .error m => inv.finish 1 "" (inv.message m)
    | .ok types =>
      let types := if types.isEmpty then [{ kind := .octal, size := 2 }] else types
      let count (k : String) : Option Nat :=
        (opts.last? k).map fun v => ((readCountIn odCount v).toOption.getD 0).toNat
      let skip := (count "j").getD 0
      let limit := count "N"
      let largest := types.foldl (fun m t => max m t.size) 1
      let asked : Option Nat := (opts.last? "w").map fun w =>
        if w.isEmpty then 32 else ((readCountIn {} w).toOption.getD 0).toNat
      let (perBlock, warning) := match asked with
        | some w =>
          if w != 0 && w % largest == 0 then (w, "")
          else (largest, inv.message ("warning: invalid width " ++ toString w ++ "; using " ++ toString largest ++ " instead"))
        | none => (16, "")
      let files := if files.isEmpty then ["-"] else files
      let (each, input) := readEach inv files fun f e => quoteIfNeeded f ++ ": " ++ errnoText e
      -- the messages, each with the place in the combined input where reading meets it
      let (placed, _) := each.foldl (fun (acc : List (Nat × String) × Nat) (_, r) =>
        match r with
        | .ok t => (acc.1, acc.2 + t.length)
        | .error m => (acc.1 ++ [(acc.2, m)], acc.2)) ([], 0)
      let bytes := (String.join (each.filterMap (·.2.toOption))).toList.map (·.toNat)
      if each.all (·.2 matches .error _) then
        { status := 1, writes := errThenOut (warning ++ String.join (placed.map (·.2))) "", tree := inv.tree, input }
      else if skip > bytes.length then
        inv.finish 1 "" (warning ++ String.join (placed.map (·.2)) ++ inv.message "cannot skip past end of combined input")
      else
        -- with a limit, reading stops there and the inputs after it are never opened
        let met := placed.filter fun (p, _) => match limit with
          | some n => p < skip + n
          | none => true
        let shown := bytes.drop skip
        let shown := match limit with
          | some n => shown.take n
          | none => shown
        let (blocks, last) := dumpBlocks types radix perBlock (opts.has "v") skip shown
        -- the messages met before the block at `i` is written
        let before (i : Nat) : String :=
          String.join ((met.filter fun (p, _) =>
            if i == 0 then p < skip + perBlock else skip + i * perBlock ≤ p && p < skip + (i + 1) * perBlock).map (·.2))
        let after : String :=
          String.join ((met.filter fun (p, _) => p ≥ skip + blocks.length * perBlock && blocks.length > 0).map (·.2))
        let writes := blocks.zipIdx.foldl (fun ws (text, i) => addOut (addErr ws (before i)) text)
          (addErr [] warning)
        let writes := if blocks.isEmpty then addErr writes (before 0) else writes
        { status := if met.isEmpty then 0 else 1, tree := inv.tree, input
          writes := addOut (addErr writes after) last }

end Regress.Shell
