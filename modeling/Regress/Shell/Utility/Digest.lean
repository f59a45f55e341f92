import Regress.Shell.Utility.Basic
import Regress.Text.Utf8

/-!
# Checksums and base64

`md5sum`, `sha1sum` and `sha256sum` write a digest of each input's bytes in hexadecimal with
the input's name, `cksum` writes the POSIX CRC and the size, and `base64` writes its input in
the base64 alphabet or reads it back.

The digests follow their definitions (RFC 1321, FIPS 180-4): the message is padded with a one
bit, zeros and its length in bits to a whole number of 64-byte blocks, and each block is
mixed into the state by rounds of 32-bit additions, rotations and bitwise functions. MD5
reads words little end first, the SHA functions big end first.
-/

namespace Regress.Shell

/-- Rotates a 32-bit word left. -/
def rotl (x : UInt32) (n : UInt32) : UInt32 :=
  (x <<< n) ||| (x >>> (32 - n))

/-- Rotates a 32-bit word right. -/
def rotr (x : UInt32) (n : UInt32) : UInt32 :=
  (x >>> n) ||| (x <<< (32 - n))

/-- The bytes of a number, `count` of them, least significant first. -/
def bytesLittle (n count : Nat) : List UInt8 :=
  (List.range count).map fun i => (n / Nat.pow 256 i % 256).toUInt8

/-- A message padded to whole 64-byte blocks: a one bit, zeros, and its length in bits in eight
bytes, least significant first when `little`. -/
def padMessage (little : Bool) (msg : List UInt8) : List UInt8 :=
  let len := msg.length
  let zeros := (119 - len % 64) % 64
  let bits := bytesLittle (8 * len) 8
  msg ++ [0x80] ++ List.replicate zeros 0 ++ (if little then bits else bits.reverse)

/-- The message cut into blocks of sixteen words. -/
def messageBlocks (little : Bool) (padded : List UInt8) : List (Array UInt32) :=
  let rec go : Nat → List UInt8 → List (Array UInt32)
    | 0, _ => []
    | fuel + 1, bytes =>
      if bytes.isEmpty then []
      else
        let block := bytes.take 64
        let word (i : Nat) : UInt32 :=
          let bs := (block.drop (4 * i)).take 4
          let bs := if little then bs.reverse else bs
          bs.foldl (fun acc b => (acc <<< 8) ||| b.toUInt32) 0
        ((List.range 16).map word).toArray :: go fuel (bytes.drop 64)
  go (padded.length / 64 + 1) padded

/-- The words of a state as bytes, least significant first when `little`. -/
def wordBytes (little : Bool) (words : List UInt32) : List UInt8 :=
  words.flatMap fun w =>
    let bs := (List.range 4).map fun i => ((w >>> (8 * i).toUInt32) &&& 0xff).toUInt8
    if little then bs else bs.reverse

/-- Bytes in lower-case hexadecimal. -/
def hexBytes (bytes : List UInt8) : String :=
  let digit (n : Nat) : Char := if n < 10 then Char.ofNat (48 + n) else Char.ofNat (87 + n)
  String.ofList (bytes.flatMap fun b => [digit (b.toNat / 16), digit (b.toNat % 16)])

/-! ## MD5 -/

/-- The additive constants of MD5, the integer parts of `2^32 |sin i|`. -/
def md5Constants : Array UInt32 := #[
  0xd76aa478, 0xe8c7b756, 0x242070db, 0xc1bdceee, 0xf57c0faf, 0x4787c62a, 0xa8304613, 0xfd469501,
  0x698098d8, 0x8b44f7af, 0xffff5bb1, 0x895cd7be, 0x6b901122, 0xfd987193, 0xa679438e, 0x49b40821,
  0xf61e2562, 0xc040b340, 0x265e5a51, 0xe9b6c7aa, 0xd62f105d, 0x02441453, 0xd8a1e681, 0xe7d3fbc8,
  0x21e1cde6, 0xc33707d6, 0xf4d50d87, 0x455a14ed, 0xa9e3e905, 0xfcefa3f8, 0x676f02d9, 0x8d2a4c8a,
  0xfffa3942, 0x8771f681, 0x6d9d6122, 0xfde5380c, 0xa4beea44, 0x4bdecfa9, 0xf6bb4b60, 0xbebfbc70,
  0x289b7ec6, 0xeaa127fa, 0xd4ef3085, 0x04881d05, 0xd9d4d039, 0xe6db99e5, 0x1fa27cf8, 0xc4ac5665,
  0xf4292244, 0x432aff97, 0xab9423a7, 0xfc93a039, 0x655b59c3, 0x8f0ccc92, 0xffeff47d, 0x85845dd1,
  0x6fa87e4f, 0xfe2ce6e0, 0xa3014314, 0x4e0811a1, 0xf7537e82, 0xbd3af235, 0x2ad7d2bb, 0xeb86d391]

/-- The rotation of each round of MD5. -/
def md5Shift (i : Nat) : UInt32 :=
  let row : List UInt32 :=
    if i < 16 then [7, 12, 17, 22] else if i < 32 then [5, 9, 14, 20]
    else if i < 48 then [4, 11, 16, 23] else [6, 10, 15, 21]
  row.getD (i % 4) 0

/-- Mixes one block into the MD5 state. -/
def md5Block (state : UInt32 × UInt32 × UInt32 × UInt32) (m : Array UInt32) :
    UInt32 × UInt32 × UInt32 × UInt32 :=
  let (a0, b0, c0, d0) := state
  let (a, b, c, d) := (List.range 64).foldl (fun (acc : UInt32 × UInt32 × UInt32 × UInt32) i =>
    let (a, b, c, d) := acc
    let (f, g) : UInt32 × Nat :=
      if i < 16 then ((b &&& c) ||| (~~~b &&& d), i)
      else if i < 32 then ((d &&& b) ||| (~~~d &&& c), (5 * i + 1) % 16)
      else if i < 48 then (b ^^^ c ^^^ d, (3 * i + 5) % 16)
      else (c ^^^ (b ||| ~~~d), (7 * i) % 16)
    let f := f + a + md5Constants.getD i 0 + m.getD g 0
    (d, b + rotl f (md5Shift i), b, c)) (a0, b0, c0, d0)
  (a0 + a, b0 + b, c0 + c, d0 + d)

/-- The MD5 digest of a message. -/
def md5 (msg : List UInt8) : List UInt8 :=
  let (a, b, c, d) := (messageBlocks true (padMessage true msg)).foldl md5Block
    (0x67452301, 0xefcdab89, 0x98badcfe, 0x10325476)
  wordBytes true [a, b, c, d]

/-! ## SHA-1 -/

/-- Mixes one block into the SHA-1 state. -/
def sha1Block (state : List UInt32) (m : Array UInt32) : List UInt32 :=
  let schedule := (List.range 64).foldl (fun (w : Array UInt32) i =>
    let t := i + 16
    w.push (rotl (w.getD (t - 3) 0 ^^^ w.getD (t - 8) 0 ^^^ w.getD (t - 14) 0 ^^^ w.getD (t - 16) 0) 1)) m
  match state with
  | [h0, h1, h2, h3, h4] =>
    let (a, b, c, d, e) := (List.range 80).foldl (fun (acc : UInt32 × UInt32 × UInt32 × UInt32 × UInt32) i =>
      let (a, b, c, d, e) := acc
      let (f, k) : UInt32 × UInt32 :=
        if i < 20 then ((b &&& c) ||| (~~~b &&& d), 0x5a827999)
        else if i < 40 then (b ^^^ c ^^^ d, 0x6ed9eba1)
        else if i < 60 then ((b &&& c) ||| (b &&& d) ||| (c &&& d), 0x8f1bbcdc)
        else (b ^^^ c ^^^ d, 0xca62c1d6)
      let t := rotl a 5 + f + e + k + schedule.getD i 0
      (t, a, rotl b 30, c, d)) (h0, h1, h2, h3, h4)
    [h0 + a, h1 + b, h2 + c, h3 + d, h4 + e]
  | other => other

/-- The SHA-1 digest of a message. -/
def sha1 (msg : List UInt8) : List UInt8 :=
  wordBytes false ((messageBlocks false (padMessage false msg)).foldl sha1Block
    [0x67452301, 0xefcdab89, 0x98badcfe, 0x10325476, 0xc3d2e1f0])

/-! ## SHA-256 -/

/-- The round constants of SHA-256, from the cube roots of the first primes. -/
def sha256Constants : Array UInt32 := #[
  0x428a2f98, 0x71374491, 0xb5c0fbcf, 0xe9b5dba5, 0x3956c25b, 0x59f111f1, 0x923f82a4, 0xab1c5ed5,
  0xd807aa98, 0x12835b01, 0x243185be, 0x550c7dc3, 0x72be5d74, 0x80deb1fe, 0x9bdc06a7, 0xc19bf174,
  0xe49b69c1, 0xefbe4786, 0x0fc19dc6, 0x240ca1cc, 0x2de92c6f, 0x4a7484aa, 0x5cb0a9dc, 0x76f988da,
  0x983e5152, 0xa831c66d, 0xb00327c8, 0xbf597fc7, 0xc6e00bf3, 0xd5a79147, 0x06ca6351, 0x14292967,
  0x27b70a85, 0x2e1b2138, 0x4d2c6dfc, 0x53380d13, 0x650a7354, 0x766a0abb, 0x81c2c92e, 0x92722c85,
  0xa2bfe8a1, 0xa81a664b, 0xc24b8b70, 0xc76c51a3, 0xd192e819, 0xd6990624, 0xf40e3585, 0x106aa070,
  0x19a4c116, 0x1e376c08, 0x2748774c, 0x34b0bcb5, 0x391c0cb3, 0x4ed8aa4a, 0x5b9cca4f, 0x682e6ff3,
  0x748f82ee, 0x78a5636f, 0x84c87814, 0x8cc70208, 0x90befffa, 0xa4506ceb, 0xbef9a3f7, 0xc67178f2]

/-- Mixes one block into the SHA-256 state. -/
def sha256Block (state : List UInt32) (m : Array UInt32) : List UInt32 :=
  let schedule := (List.range 48).foldl (fun (w : Array UInt32) i =>
    let t := i + 16
    let w15 := w.getD (t - 15) 0
    let w2 := w.getD (t - 2) 0
    let s0 := rotr w15 7 ^^^ rotr w15 18 ^^^ (w15 >>> 3)
    let s1 := rotr w2 17 ^^^ rotr w2 19 ^^^ (w2 >>> 10)
    w.push (w.getD (t - 16) 0 + s0 + w.getD (t - 7) 0 + s1)) m
  match state with
  | [h0, h1, h2, h3, h4, h5, h6, h7] =>
    let (a, b, c, d, e, f, g, h) := (List.range 64).foldl
      (fun (acc : UInt32 × UInt32 × UInt32 × UInt32 × UInt32 × UInt32 × UInt32 × UInt32) i =>
        let (a, b, c, d, e, f, g, h) := acc
        let s1 := rotr e 6 ^^^ rotr e 11 ^^^ rotr e 25
        let ch := (e &&& f) ^^^ (~~~e &&& g)
        let t1 := h + s1 + ch + sha256Constants.getD i 0 + schedule.getD i 0
        let s0 := rotr a 2 ^^^ rotr a 13 ^^^ rotr a 22
        let maj := (a &&& b) ^^^ (a &&& c) ^^^ (b &&& c)
        let t2 := s0 + maj
        (t1 + t2, a, b, c, d + t1, e, f, g)) (h0, h1, h2, h3, h4, h5, h6, h7)
    [h0 + a, h1 + b, h2 + c, h3 + d, h4 + e, h5 + f, h6 + g, h7 + h]
  | other => other

/-- The SHA-256 digest of a message. -/
def sha256 (msg : List UInt8) : List UInt8 :=
  wordBytes false ((messageBlocks false (padMessage false msg)).foldl sha256Block
    [0x6a09e667, 0xbb67ae85, 0x3c6ef372, 0xa54ff53a, 0x510e527f, 0x9b05688c, 0x1f83d9ab, 0x5be0cd19])

/-! ## The digest utilities -/

/-- A name as a digest line writes it: with `\\` and a line break written as `\\\\` and `\\n`
when `escape`. -/
def escapedName (escape : Bool) (name : String) : String :=
  if !escape then name
  else String.join (name.toList.map fun c =>
    if c == '\\' then "\\\\" else if c == '\n' then "\\n" else String.singleton c)

/-- A name read back from a checksum list after a leading `\\`: `\\\\` and `\\n` stand for
a backslash and a line break, and any other backslash is a fault. -/
def unescapedName : List Char → Option (List Char)
  | [] => some []
  | '\\' :: '\\' :: rest => (unescapedName rest).map ('\\' :: ·)
  | '\\' :: 'n' :: rest => (unescapedName rest).map ('\n' :: ·)
  | '\\' :: _ => none
  | c :: rest => (unescapedName rest).map (c :: ·)

/-- Whether a text is exactly `count` hexadecimal digits. -/
def hexOfLength (count : Nat) (cs : List Char) : Bool :=
  cs.length == count && cs.all fun c => c.isDigit || ('a' ≤ c && c ≤ 'f') || ('A' ≤ c && c ≤ 'F')

/-- Reads a line of a checksum list for the digest `algo` of `hexLength` digits: the digest and
the name, or `none` when the line is not one. A line is `DIGEST  NAME` (or `*NAME`), or
`ALGO (NAME) = DIGEST`; a `\\` in front marks an escaped name. `spaced` says whether lines
put a space or `*` before the name: the first line that tells decides it for the rest. -/
def checksumLine (algo : String) (hexLength : Nat) (spaced : Option Bool) (line : List Char) :
    Option (String × String × Option Bool) :=
  let white (c : Char) : Bool := c == ' ' || c == '\t'
  let cs := line.dropWhile white
  let (escaped, cs) := match cs with
    | '\\' :: rest => (true, rest)
    | rest => (false, rest)
  let finishName (name : List Char) : Option String :=
    if escaped then (unescapedName name).map String.ofList else some (String.ofList name)
  if cs.take algo.length == algo.toList then
    let rest := cs.drop algo.length
    let rest := match rest with
      | ' ' :: r => r
      | r => r
    match rest with
    | '(' :: body =>
      -- the name ends at the last closing parenthesis
      let close := body.length - 1 - ((body.reverse.takeWhile (· != ')')).length)
      if !body.contains ')' then none
      else
        let name := body.take close
        let after := (body.drop (close + 1)).dropWhile white
        match after with
        | '=' :: hex =>
          let hex := hex.dropWhile white
          if hexOfLength hexLength hex then
            (finishName name).map fun n => (String.ofList hex, n, spaced)
          else none
        | _ => none
    | _ => none
  else if cs.length < hexLength + 2 then none
  else
    let hex := cs.take hexLength
    match cs.drop hexLength with
    | w :: rest =>
      if !white w || !hexOfLength hexLength hex then none
      else
        let plain := rest.length == 1 || (rest.head? != some ' ' && rest.head? != some '*')
        if plain then
          if spaced == some true then none
          else (finishName rest).map fun n => (String.ofList hex, n, some false)
        else if spaced == some false then
          (finishName rest).map fun n => (String.ofList hex, n, spaced)
        else (finishName (rest.drop 1)).map fun n => (String.ofList hex, n, some true)
    | [] => none

/-- What checking one list found: lines that are not checksum lines, names that could not be
read, digests that differ, digests that agree, and whether any line was a checksum line. -/
structure CheckTally where
  misformatted : Nat := 0
  unreadable : Nat := 0
  mismatched : Nat := 0
  matched : Nat := 0
  wellFormed : Bool := false

/-- Whether a count is one, for the singular of a warning. -/
def pluralText (n : Nat) (one many : String) : String :=
  toString n ++ " " ++ (if n == 1 then one else many)

/-- `md5sum`, `sha1sum` and `sha256sum`: the digest of each input with its name, or with `-c`
the check of the digests a list gives against the files it names. -/
def digestUtility (algo : String) (digest : List UInt8 → List UInt8) (inv : Invocation) : Completion :=
  let specs : List OptSpec := [
    { key := "b", short := some 'b', long := some "binary" },
    { key := "c", short := some 'c', long := some "check" },
    { key := "ignore-missing", long := some "ignore-missing" },
    { key := "quiet", long := some "quiet" },
    { key := "status", long := some "status" },
    { key := "t", short := some 't', long := some "text" },
    { key := "w", short := some 'w', long := some "warn" },
    { key := "strict", long := some "strict" },
    { key := "tag", long := some "tag" },
    { key := "z", short := some 'z', long := some "zero" },
    { key := "help", long := some "help" },
    { key := "version", long := some "version" }]
  let hexLength := 2 * (digest []).length
  let hexOf (text : String) : String := hexBytes (digest (Utf8.octetsOfText text))
  match parseOptions specs false inv.args with
  | .error e => inv.optionFailure 1 e
  | .ok (opts, files) =>
    let checking := opts.has "c"
    let mode := (opts.filter fun (k, _) => k == "b" || k == "t").getLast?.map (·.1)
    let refusal : Option String :=
      if opts.has "tag" && mode == some "t" then some "--tag does not support --text mode"
      else if opts.has "tag" && checking then some "the --tag option is meaningless when verifying checksums"
      else if mode.isSome && checking then
        some "the --binary and --text options are meaningless when verifying checksums"
      else
        (["ignore-missing", "status", "w", "quiet", "strict"].find? fun k => opts.has k && !checking).map
          fun k => "the --" ++ (if k == "w" then "warn" else k) ++
            " option is meaningful only when verifying checksums"
    match refusal with
    | some m => inv.finish 1 "" (inv.message m ++ inv.tryHelp)
    | none =>
    let files := if files.isEmpty then ["-"] else files
    let (each, input) := readEach inv files fun f e => quoteIfNeeded f ++ ": " ++ errnoText e
    if !checking then
      let eol := if opts.has "z" then "\x00" else "\n"
      let writes := each.map fun (name, r) => match r with
        | .ok text =>
          let escape := !opts.has "z" && (name.contains '\\' || name.contains '\n')
          let shown := (if escape then "\\" else "") ++
            (if opts.has "tag" then algo ++ " (" ++ escapedName escape name ++ ") = " ++ hexOf text
             else hexOf text ++ " " ++ (if mode == some "b" then "*" else " ") ++ escapedName escape name)
          Write.out (shown ++ eol)
        | .error m => .err m
      let failed := each.any (·.2 matches .error _)
      { status := if failed then 1 else 0, writes, tree := inv.tree, input }
    else
      let quiet := opts.has "quiet"
      let silent := opts.has "status"
      let ignoreMissing := opts.has "ignore-missing"
      -- checks one list: the writes and whether all was well
      let checkList (listName : String) (text : String) : List Write × Bool :=
        let shownList := if listName == "-" then "standard input" else listName
        let lines := splitLines text
        let (ws, tally, _) := lines.zipIdx.foldl (fun (acc : List Write × CheckTally × Option Bool) (line, i) =>
          let (ws, tally, spaced) := acc
          let cs := line.toList
          let cs := if cs.getLast? == some '\r' then cs.dropLast else cs
          if line.startsWith "#" || cs.isEmpty then acc
          else
            match checksumLine algo hexLength spaced cs with
            | some (hex, name, spaced) =>
              if listName == "-" && name == "-" then
                (ws, { tally with misformatted := tally.misformatted + 1 }, spaced)
              else
                let tally := { tally with wellFormed := true }
                let escape := !silent && name.contains '\n'
                let shown := (if escape then "\\" else "") ++ escapedName escape name
                let content := if name == "-" then Except.ok input else inv.read name
                match content with
                | .error e =>
                  if ignoreMissing && e.errno == .noEntry then (ws, tally, spaced)
                  else
                    let ws := ws ++ [.err (inv.message (quoteIfNeeded name ++ ": " ++ errnoText e.errno))]
                    let ws := if silent then ws else ws ++ [.out (shown ++ ": FAILED open or read\n")]
                    (ws, { tally with unreadable := tally.unreadable + 1 }, spaced)
                | .ok body =>
                  if lowerAscii hex == hexOf body then
                    (if silent || quiet then ws else ws ++ [.out (shown ++ ": OK\n")],
                      { tally with matched := tally.matched + 1 }, spaced)
                  else
                    (if silent then ws else ws ++ [.out (shown ++ ": FAILED\n")],
                      { tally with mismatched := tally.mismatched + 1 }, spaced)
            | none =>
              let ws := if opts.has "w" then
                  ws ++ [.err (inv.message (quoteIfNeeded shownList ++ ": " ++ toString (i + 1) ++
                    ": improperly formatted " ++ algo ++ " checksum line"))]
                else ws
              (ws, { tally with misformatted := tally.misformatted + 1 }, spaced)) ([], {}, none)
        let warnings :=
          if !tally.wellFormed then
            [inv.message (quoteIfNeeded shownList ++ ": no properly formatted checksum lines found")]
          else if silent then []
          else
            (if tally.misformatted > 0 then
              [inv.message ("WARNING: " ++ pluralText tally.misformatted "line is" "lines are" ++ " improperly formatted")]
             else []) ++
            (if tally.unreadable > 0 then
              [inv.message ("WARNING: " ++ pluralText tally.unreadable "listed file" "listed files" ++ " could not be read")]
             else []) ++
            (if tally.mismatched > 0 then
              [inv.message ("WARNING: " ++ pluralText tally.mismatched "computed checksum" "computed checksums" ++
                " did NOT match")]
             else []) ++
            (if ignoreMissing && tally.matched == 0 then
              [inv.message (quoteIfNeeded shownList ++ ": no file was verified")] else [])
        let ok := tally.wellFormed && tally.mismatched == 0 && tally.unreadable == 0 &&
          (!opts.has "strict" || tally.misformatted == 0) && (!ignoreMissing || tally.matched > 0)
        (ws ++ warnings.map Write.err, ok)
      let (writes, ok) := each.foldl (fun (acc : List Write × Bool) (name, r) =>
        match r with
        | .ok text =>
          let (ws, good) := checkList name text
          (acc.1 ++ ws, acc.2 && good)
        | .error m => (acc.1 ++ [.err m], false)) ([], true)
      { status := if ok then 0 else 1, writes, tree := inv.tree, input }

/-! ## cksum -/

/-- The CRC of POSIX `cksum`: the bytes, then the length in as few bytes as it takes, least
significant first, through the polynomial `0x04C11DB7`, complemented. -/
def posixCrc (bytes : List UInt8) : UInt32 :=
  let entry (i : UInt32) : UInt32 :=
    (List.range 8).foldl (fun r _ =>
      if r &&& 0x80000000 != 0 then (r <<< 1) ^^^ 0x04c11db7 else r <<< 1) (i <<< 24)
  let step (crc : UInt32) (b : UInt8) : UInt32 :=
    (crc <<< 8) ^^^ entry (((crc >>> 24) ^^^ b.toUInt32) &&& 0xff)
  let crc := bytes.foldl step 0
  let rec lengthBytes : Nat → Nat → List UInt8
    | 0, _ => []
    | fuel + 1, n => if n == 0 then [] else (n % 256).toUInt8 :: lengthBytes fuel (n / 256)
  ~~~((lengthBytes 9 bytes.length).foldl step crc)

/-- `cksum`: the CRC and size of each input. -/
def cksum (inv : Invocation) : Completion :=
  let specs : List OptSpec := [
    { key := "help", long := some "help" },
    { key := "version", long := some "version" }]
  match parseOptions specs false inv.args with
  | .error e => inv.optionFailure 1 e
  | .ok (_, files) =>
    let named := !files.isEmpty
    let files := if files.isEmpty then ["-"] else files
    let (each, input) := readEach inv files fun f e => quoteIfNeeded f ++ ": " ++ errnoText e
    let writes := each.map fun (name, r) => match r with
      | .ok text =>
        let bytes := Utf8.octetsOfText text
        Write.out (toString (posixCrc bytes).toNat ++ " " ++ toString bytes.length ++
          (if named then " " ++ name else "") ++ "\n")
      | .error m => .err m
    let failed := each.any (·.2 matches .error _)
    { status := if failed then 1 else 0, writes, tree := inv.tree, input }

/-! ## sum -/

/-- The checksum of `sum`: by default the BSD one, a 16-bit sum rotated right one bit before
each byte is added; with `sysv` the sum of all bytes folded to 16 bits. -/
def sumChecksum (sysv : Bool) (bytes : List UInt8) : Nat :=
  if sysv then
    let total := bytes.foldl (fun acc b => acc + b.toNat) 0
    let r := total % 65536 + (total % 4294967296) / 65536
    r % 65536 + r / 65536
  else
    bytes.foldl (fun acc b =>
      let rotated := acc / 2 + (acc % 2) * 32768
      (rotated + b.toNat) % 65536) 0

/-- `sum`: the checksum and size in blocks of each input, BSD style (`-r`, the default: five
digits and 1024-byte blocks) or System V style (`-s`: 512-byte blocks); the name follows when
inputs are named. -/
def sum (inv : Invocation) : Completion :=
  let specs : List OptSpec := [
    { key := "r", short := some 'r' },
    { key := "s", short := some 's', long := some "sysv" },
    { key := "help", long := some "help" },
    { key := "version", long := some "version" }]
  match parseOptions specs false inv.args with
  | .error e => inv.optionFailure 1 e
  | .ok (opts, files) =>
    let sysv := (opts.filter fun (k, _) => k == "r" || k == "s").getLast?.any (·.1 == "s")
    let named := !files.isEmpty
    let files := if files.isEmpty then ["-"] else files
    let (each, input) := readEach inv files fun f e => quoteIfNeeded f ++ ": " ++ errnoText e
    let writes := each.map fun (name, r) => match r with
      | .ok text =>
        let bytes := Utf8.octetsOfText text
        let check := sumChecksum sysv bytes
        let size := if sysv then (bytes.length + 511) / 512 else (bytes.length + 1023) / 1024
        let checkText := if sysv then toString check
          else let t := toString check; String.ofList (List.replicate (5 - t.length) '0') ++ t
        let sizeText := if sysv then toString size
          else let t := toString size; String.ofList (List.replicate (5 - t.length) ' ') ++ t
        Write.out (checkText ++ " " ++ sizeText ++ (if named then " " ++ name else "") ++ "\n")
      | .error m => .err m
    let failed := each.any (·.2 matches .error _)
    { status := if failed then 1 else 0, writes, tree := inv.tree, input }

/-! ## base64 -/

/-- The base64 alphabet. -/
def base64Alphabet : List Char :=
  "ABCDEFGHIJKLMNOPQRSTUVWXYZabcdefghijklmnopqrstuvwxyz0123456789+/".toList

/-- Bytes in base64, padded with `=`. -/
def base64Encode (bytes : List UInt8) : String :=
  let rec go : Nat → List UInt8 → List Char
    | 0, _ => []
    | fuel + 1, bs =>
      match bs with
      | [] => []
      | _ =>
        let group := bs.take 3
        let n := group.foldl (fun acc b => acc * 256 + b.toNat) 0 * Nat.pow 256 (3 - group.length)
        let chars := (List.range 4).map fun i => base64Alphabet.getD (n / Nat.pow 64 (3 - i) % 64) 'A'
        let kept := chars.take (group.length + 1) ++ List.replicate (3 - group.length) '='
        kept ++ go fuel (bs.drop 3)
  String.ofList (go (bytes.length + 1) bytes)

/-- Decodes one group of up to four base64 characters: the bytes of the characters it could
read, and whether the whole group was valid. A group needs two characters of the alphabet, and
padding only as its last two, or its last one after three. -/
def base64Group (g : List Char) : List UInt8 × Bool :=
  let value (c : Char) : Option Nat := base64Alphabet.findIdx? (· == c)
  let byte (n : Nat) : UInt8 := (n % 256).toUInt8
  match g.map value with
  | some a :: some b :: more =>
    let first := byte (a * 4 + b / 16)
    match more, g.drop 2 with
    | [], _ => ([first], false)
    | _, ['=', '='] => ([first], true)
    | _, '=' :: _ => ([first], false)
    | some c :: more, _ =>
      let second := byte ((b % 16) * 16 + c / 4)
      match more, g.drop 3 with
      | [], _ => ([first, second], false)
      | _, ['='] => ([first, second], true)
      | [some d], _ => ([first, second, byte ((c % 4) * 64 + d)], true)
      | _, _ => ([first, second], false)
    | _, _ => ([first], false)
  | _ => ([], false)

/-- Reads base64 text back into bytes, skipping line breaks: the bytes read up to the first
fault and whether there was none. Each group of four stands alone, so a group may follow one
that ended with padding. -/
def base64Decode (text : String) : List UInt8 × Bool :=
  let rec go : Nat → List Char → List UInt8 → List UInt8 × Bool
    | 0, _, acc => (acc, true)
    | _ + 1, [], acc => (acc, true)
    | fuel + 1, rest, acc =>
      let (bytes, ok) := base64Group (rest.take 4)
      if ok then go fuel (rest.drop 4) (acc ++ bytes) else (acc ++ bytes, false)
  let cs := text.toList.filter (· != '\n')
  go (cs.length + 1) cs []

/-- `base64`: writes its input in base64 in lines of 76 characters, or with `-d` decodes it. -/
def base64 (inv : Invocation) : Completion :=
  let specs : List OptSpec := [
    { key := "d", short := some 'd', long := some "decode" },
    { key := "i", short := some 'i', long := some "ignore-garbage" },
    { key := "w", short := some 'w', long := some "wrap", arg := .required },
    { key := "help", long := some "help" },
    { key := "version", long := some "version" }]
  match parseOptions specs false inv.args with
  | .error e => inv.optionFailure 1 e
  | .ok (opts, files) =>
    match files with
    | _ :: extra :: _ => inv.finish 1 "" (inv.message ("extra operand " ++ quoteName extra) ++ inv.tryHelp)
    | _ =>
      let file := files.headD "-"
      let text := if file == "-" then .ok inv.input else inv.read file
      let input := if file == "-" then "" else inv.input
      match text with
      | .error e => inv.finish 1 "" (inv.message (quoteIfNeeded file ++ ": " ++ errnoText e.errno))
      | .ok text =>
        let wrapText := (opts.last? "w").getD "76"
        match wrapText.toNat? with
        | none => inv.finish 1 "" (inv.message ("invalid wrap size: " ++ quoteName wrapText))
        | some wrap =>
          if opts.has "d" then
            let text := if opts.has "i" then String.ofList (text.toList.filter fun c =>
                base64Alphabet.contains c || c == '=') else text
            let (bytes, ok) := base64Decode text
            { status := if ok then 0 else 1, tree := inv.tree, input
              writes := outThenErr (Utf8.textOfOctets bytes) (if ok then "" else inv.message "invalid input") }
          else
            let encoded := base64Encode (Utf8.octetsOfText text)
            let out :=
              if wrap == 0 || encoded.isEmpty then encoded
              else
                let cs := encoded.toList
                let rec lines : Nat → List Char → String
                  | 0, _ => ""
                  | fuel + 1, rest =>
                    if rest.isEmpty then "" else String.ofList (rest.take wrap) ++ "\n" ++ lines fuel (rest.drop wrap)
                lines (cs.length + 1) cs
            { status := 0, writes := outThenErr out "", tree := inv.tree, input }

end Regress.Shell
