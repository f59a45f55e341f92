import Regress.Shell.Utility.Basic
import Regress.Shell.Utility.Text

/-!
# sort

`sort` writes the lines of its inputs in order, or merges inputs that are sorted already.

* **Keys.** A key is the part of a line from a field and character to a field and character
  (`-k`); without keys the whole line is the one key. Fields are separated by the character of
  `-t`, or else each starts at a run of blanks.
* **Rules.** A key compares by one rule: bytes; numbers with sign and decimals (`-n`); numbers
  as the C library reads floating point, hexadecimal and exponents included, where text that is
  no number comes first and not-a-number next (`-g`); numbers with a size suffix, the suffix
  first (`-h`); month names (`-M`); or versions, digits read as numbers (`-V`). Before the rule,
  `-d` keeps only letters, digits and blanks, `-i` only printable characters, and `-f` folds
  lower case to upper; `-r` reverses the key's order.
* **Ties.** Lines whose keys are all equal compare by their bytes as a last resort, unless `-s`
  or `-u` is given; `-u` keeps the first line of each run of equal keys.
* **Merging.** `-m` takes each input as sorted and writes the least of their first lines again
  and again, the earlier input first on ties; with `-u` a line is written only when its keys
  differ from those of the line before it.
* **Checking.** `-c` reports the first line out of order and `-C` reports nothing; either ends
  with status 1 when the input is not sorted (with `-u`, when two lines are equal).
* **Refusals.** Options are read in order and the first wrong one is refused with status 2: a
  key position that is no number, or counts a field or character from zero; two ways to compare
  in one key; two different tabs or output files; `-c` with `-C`, with `-o`, or with a second
  input. A tab of `-t` is one character (`\0` stands for the zero character). Every input must
  be readable before any is read.
-/

namespace Regress.Shell

/-! ## Keys -/

/-- How a key compares. -/
inductive SortRule where
  | bytes
  | numeric
  | general
  | human
  | month
  | version
  | random
  deriving Repr, DecidableEq, Inhabited

/-- The options of a key, as its letters set them: blanks skipped at its start and at its end
(`b`), `d`, `f`, `g`, `h`, `i`, `M`, `n`, `R`, `r` and `V`. -/
structure KeyOptions where
  blanksStart : Bool := false
  blanksEnd : Bool := false
  dictionary : Bool := false
  fold : Bool := false
  general : Bool := false
  human : Bool := false
  printable : Bool := false
  month : Bool := false
  numeric : Bool := false
  random : Bool := false
  reverse : Bool := false
  version : Bool := false
  deriving Repr, Inhabited

/-- Sets the option of one letter, where `b` is for the start of the key, its end, or both; `none`
when the character is no option letter. `d` keeps only what `i` keeps and less, so `d` wins
whichever comes first. -/
def KeyOptions.set (o : KeyOptions) (atStart atEnd : Bool) (c : Char) : Option KeyOptions :=
  match c with
  | 'b' => some { o with blanksStart := o.blanksStart || atStart, blanksEnd := o.blanksEnd || atEnd }
  | 'd' => some { o with dictionary := true, printable := false }
  | 'f' => some { o with fold := true }
  | 'g' => some { o with general := true }
  | 'h' => some { o with human := true }
  | 'i' => some { o with printable := !o.dictionary }
  | 'M' => some { o with month := true }
  | 'n' => some { o with numeric := true }
  | 'R' => some { o with random := true }
  | 'r' => some { o with reverse := true }
  | 'V' => some { o with version := true }
  | _ => none

/-- Sets the options of the letters at the front of a key position: the options and what
follows the letters. -/
def KeyOptions.setAll (atStart atEnd : Bool) : KeyOptions → List Char → KeyOptions × List Char
  | o, [] => (o, [])
  | o, c :: rest =>
    match o.set atStart atEnd c with
    | some o' => KeyOptions.setAll atStart atEnd o' rest
    | none => (o, c :: rest)

/-- Whether a key sets no option, `r` apart: such a key compares by the global options. -/
def KeyOptions.isPlain (o : KeyOptions) : Bool :=
  !(o.blanksStart || o.blanksEnd || o.dictionary || o.fold || o.general || o.human ||
    o.printable || o.month || o.numeric || o.random || o.version)

/-- The letters of the options that shape a comparison, in the order `sort` names them. -/
def KeyOptions.ruleLetters (o : KeyOptions) : String :=
  String.ofList ([('d', o.dictionary), ('f', o.fold), ('g', o.general), ('h', o.human),
    ('i', o.printable), ('M', o.month), ('n', o.numeric), ('R', o.random),
    ('V', o.version)].filterMap fun (c, b) => if b then some c else none)

/-- Whether a key asks for two ways to compare at once: two of numbers, general numbers, sizes,
months, and one of versions, random order or dropped characters. -/
def KeyOptions.conflicting (o : KeyOptions) : Bool :=
  [o.numeric, o.general, o.human, o.month,
    o.version || o.random || o.dictionary || o.printable].count true > 1

/-- The rule the options choose, in the order `sort` tries them. -/
def KeyOptions.rule (o : KeyOptions) : SortRule :=
  if o.numeric then .numeric
  else if o.general then .general
  else if o.human then .human
  else if o.month then .month
  else if o.random then .random
  else if o.version then .version
  else .bytes

/-- A key of `sort`. It starts after `startField` fields and `startChar` more characters, and
ends with the field after `endField` fields (all of it when `endChar` is zero, else its first
`endChar` characters), or with the line. -/
structure SortKey where
  startField : Nat
  startChar : Nat
  endField : Option Nat
  endChar : Nat
  options : KeyOptions
  deriving Repr, Inhabited

/-- The key of a whole line, for global options without `-k`. -/
def wholeLineKey (o : KeyOptions) : SortKey :=
  { startField := 0, startChar := 0, endField := none, endChar := 0, options := o }

/-- Reads a count of a key position after optional white space and `+`: the number and what
follows its digits, or `none` when no digit comes. -/
def readKeyCount (cs : List Char) : Option (Nat × List Char) :=
  let cs := cs.dropWhile fun c => c == ' ' || ('\t' ≤ c && c ≤ '\r')
  let cs := match cs with
    | '+' :: rest => rest
    | _ => cs
  let ds := cs.takeWhile Char.isDigit
  if ds.isEmpty then none
  else some (ds.foldl (fun n c => 10 * n + (c.toNat - 48)) 0, cs.drop ds.length)

/-- Reads the argument of `-k`, `F[.C][letters][,F[.C][letters]]` with fields and characters
counted from one, or the message for why it is refused. -/
def readKeySpec (spec : String) : Except String SortKey := do
  let bad (why : String) : String := why ++ ": invalid field specification " ++ quoteName spec
  let count (why : String) (cs : List Char) : Except String (Nat × List Char) :=
    match readKeyCount cs with
    | some r => .ok r
    | none => .error (why ++ ": invalid count at start of " ++ quoteName (String.ofList cs))
  let (f, rest) ← count "invalid number at field start" spec.toList
  if f == 0 then throw (bad "field number is zero")
  let (c, rest) ← match rest with
    | '.' :: more => do
      let (c, rest) ← count "invalid number after \x27.\x27" more
      if c == 0 then throw (bad "character offset is zero")
      pure (c - 1, rest)
    | _ => pure (0, rest)
  let (opts, rest) := KeyOptions.setAll true false {} rest
  match rest with
  | [] => pure { startField := f - 1, startChar := c, endField := none, endChar := 0, options := opts }
  | ',' :: more =>
    let (e, rest) ← count "invalid number after \x27,\x27" more
    if e == 0 then throw (bad "field number is zero")
    let (ec, rest) ← match rest with
      | '.' :: more => count "invalid number after \x27.\x27" more
      | _ => pure (0, rest)
    let (opts, rest) := KeyOptions.setAll false true opts rest
    if rest.isEmpty then
      pure { startField := f - 1, startChar := c, endField := some (e - 1), endChar := ec, options := opts }
    else throw (bad "stray character in field spec")
  | _ => throw (bad "stray character in field spec")

/-- Whether a character is a blank as `sort` skips them. -/
def sortBlank (c : Char) : Bool :=
  c == ' ' || c == '\t'

/-- What follows one field: past the next separator with `-t`, else past the blanks and the
other characters after them. -/
def skipField (sep : Option Char) (cs : List Char) : List Char :=
  match sep with
  | some t =>
    match cs.dropWhile (· != t) with
    | _ :: rest => rest
    | [] => []
  | none => (cs.dropWhile sortBlank).dropWhile fun c => !sortBlank c

/-- What follows `n` fields, or nothing when the line has fewer. -/
def skipFields (sep : Option Char) : Nat → List Char → List Char
  | 0, cs => cs
  | _ + 1, [] => []
  | n + 1, cs => skipFields sep n (skipField sep cs)

/-- What follows `n` fields where a key ends. With `-t` the last separator stays unless `past`,
so that a key that ends with a whole field does not take the separator after it. -/
def skipEndFields (sep : Option Char) (past : Bool) : Nat → List Char → List Char
  | 0, cs => cs
  | _ + 1, [] => []
  | n + 1, cs =>
    match sep with
    | some t =>
      let rest := cs.dropWhile (· != t)
      if n == 0 && !past then rest
      else skipEndFields sep past n (rest.drop 1)
    | none => skipEndFields sep past n (skipField none cs)

/-- Where a key starts in a line, in characters. -/
def keyStart (sep : Option Char) (k : SortKey) (line : List Char) : Nat :=
  let rest := skipFields sep k.startField line
  let rest := if k.options.blanksStart then rest.dropWhile sortBlank else rest
  min line.length (line.length - rest.length + k.startChar)

/-- Where a key ends in a line, in characters. -/
def keyLimit (sep : Option Char) (k : SortKey) (line : List Char) : Nat :=
  match k.endField with
  | none => line.length
  | some e =>
    if k.endChar == 0 then line.length - (skipEndFields sep false (e + 1) line).length
    else
      let rest := skipEndFields sep true e line
      let rest := if k.options.blanksEnd then rest.dropWhile sortBlank else rest
      min line.length (line.length - rest.length + k.endChar)

/-- The text of a key in a line; empty when it would end before it starts. -/
def keyText (sep : Option Char) (k : SortKey) (line : String) : String :=
  let cs := line.toList
  let start := keyStart sep k cs
  String.ofList ((cs.drop start).take (keyLimit sep k cs - start))

/-! ## Numbers -/

/-- The leading number of a text as `sort -n` reads it, as a sign, digits and fraction. -/
def numericValue (s : String) : Int × Nat × String :=
  let cs := s.toList.dropWhile sortBlank
  let (neg, cs) := match cs with
    | '-' :: r => (true, r)
    | r => (false, r)
  let whole := cs.takeWhile Char.isDigit
  let frac := match cs.drop whole.length with
    | '.' :: r => r.takeWhile Char.isDigit
    | _ => []
  let frac := String.ofList (frac.reverse.dropWhile (· == '0')).reverse
  let w := (String.ofList whole).toNat?.getD 0
  let isZero := w == 0 && frac.isEmpty
  ((if neg && !isZero then -1 else if isZero then 0 else 1), w, frac)

/-- Compares two texts as numbers the way `sort -n` does. -/
def compareNumeric (a b : String) : Ordering :=
  let (sa, wa, fa) := numericValue a
  let (sb, wb, fb) := numericValue b
  if sa != sb then compare sa sb
  else
    let mag := match compare wa wb with
      | .eq => compare fa fb
      | o => o
    if sa < 0 then mag.swap else mag

/-- A number as the C library's reader of floating point finds it at the front of a text:
nothing, not a number, an infinity, or an exact value as a fraction. -/
inductive GeneralNumber where
  | nothing
  | notANumber
  | infinite (negative : Bool)
  | finite (negative : Bool) (num den : Nat)
  deriving Repr, Inhabited

/-- The largest power of ten a long double reaches; beyond it a number reads as infinite. -/
def generalTopExponent : Int := 4933

/-- The smallest power of ten a long double keeps apart from zero; below it a number reads
as zero. -/
def generalBottomExponent : Int := -4951

/-- The value of digits in a base. -/
def digitsValue (base : Nat) (ds : List Char) : Nat :=
  ds.foldl (fun n c =>
    let d := if c.isDigit then c.toNat - '0'.toNat
      else if 'a' ≤ c.toLower && c.toLower ≤ 'f' then c.toLower.toNat - 'a'.toNat + 10 else 0
    n * base + d) 0

/-- An exponent after its letter: an optional sign and at least one digit, with the rest; none
when the letter is not followed by one. -/
def exponentPart (cs : List Char) : Option (Int × List Char) :=
  let (neg, rest) := match cs with
    | '-' :: r => (true, r)
    | '+' :: r => (false, r)
    | r => (false, r)
  let ds := rest.takeWhile Char.isDigit
  if ds.isEmpty then none
  else
    let v : Int := digitsValue 10 ds
    some (if neg then -v else v, rest.drop ds.length)

/-- A value `m · base ^ e` as a fraction, given the power of ten of its size, or the infinity or
zero it reads as when out of range. -/
def scaledValue (negative : Bool) (m : Nat) (base : Nat) (e : Int) (magnitude : Int) :
    GeneralNumber :=
  if m == 0 then .finite negative 0 1
  else if magnitude > generalTopExponent then .infinite negative
  else if magnitude < generalBottomExponent then .finite negative 0 1
  else if e ≥ 0 then .finite negative (m * Nat.pow base e.toNat) 1
  else .finite negative m (Nat.pow base e.natAbs)

/-- Whether a character is white space as the C library skips it. -/
def cSpace (c : Char) : Bool :=
  c == ' ' || c == '\t' || c == '\n' || c == '\x0b' || c == '\x0c' || c == '\r'

/-- Whether a character is a hexadecimal digit. -/
def hexDigitChar (c : Char) : Bool :=
  c.isDigit || ('a' ≤ c.toLower && c.toLower ≤ 'f')

/-- Reads the number at the front of a text the way `strtold` does: blanks, a sign, then
`inf`, `nan`, a hexadecimal number after `0x` with an optional binary exponent after `p`, or
decimal digits with an optional point and exponent after `e`. -/
def readGeneral (s : String) : GeneralNumber :=
  let cs := s.toList.dropWhile cSpace
  let (neg, cs) := match cs with
    | '-' :: r => (true, r)
    | '+' :: r => (false, r)
    | r => (false, r)
  let lower := cs.map Char.toLower
  if lower.take 3 == "inf".toList then .infinite neg
  else if lower.take 3 == "nan".toList then .notANumber
  else
    -- digits, an optional point with more digits, and what follows them
    let mantissa (digit : Char → Bool) (xs : List Char) : List Char × List Char × List Char :=
      let whole := xs.takeWhile digit
      match xs.drop whole.length with
      | '.' :: r =>
        let frac := r.takeWhile digit
        (whole, frac, r.drop frac.length)
      | r => (whole, [], r)
    let exponentAfter (letters : List Char) (xs : List Char) : Int :=
      match xs with
      | c :: r => if letters.contains c then ((exponentPart r).map (·.1)).getD 0 else 0
      | [] => 0
    let hex := match cs with
      | '0' :: x :: rest =>
        let (whole, frac, after) := mantissa hexDigitChar rest
        if (x == 'x' || x == 'X') && !(whole.isEmpty && frac.isEmpty) then
          let m := digitsValue 16 (whole ++ frac)
          let e : Int := exponentAfter ['p', 'P'] after - 4 * (frac.length : Int)
          -- the power of two of the leading bit, turned into a power of ten
          let magnitude : Int := ((Nat.log2 (max m 1) : Nat) : Int) + e
          some (scaledValue neg m 2 e (magnitude * 3 / 10))
        else none
      | _ => none
    match hex with
    | some v => v
    | none =>
      let (whole, frac, after) := mantissa Char.isDigit cs
      if whole.isEmpty && frac.isEmpty then .nothing
      else
        let digits := (whole ++ frac).dropWhile (· == '0')
        let e : Int := exponentAfter ['e', 'E'] after - (frac.length : Int)
        scaledValue neg (digitsValue 10 digits) 10 e ((digits.length : Int) + e)

/-- The order of two numbers of `-g`: text that is no number first, then not-a-number, then
the numbers by value, where the two zeros are equal. -/
def compareGeneral (a b : String) : Ordering :=
  let rank : GeneralNumber → Nat
    | .nothing => 0
    | .notANumber => 1
    | _ => 2
  let x := readGeneral a
  let y := readGeneral b
  if rank x != rank y then compare (rank x) (rank y)
  else
    -- a value as a sign and a fraction; the infinities as the ends
    let place : GeneralNumber → Int × Nat × Nat
      | .infinite true => (-2, 1, 1)
      | .infinite false => (2, 1, 1)
      | .finite negative num den => (if num == 0 then 0 else if negative then -1 else 1, num, den)
      | _ => (0, 0, 1)
    let (sx, nx, dx) := place x
    let (sy, ny, dy) := place y
    if sx != sy then compare sx sy
    else if sx == 2 || sx == -2 || sx == 0 then .eq
    else
      let mag := compare (nx * dy) (ny * dx)
      if sx < 0 then mag.swap else mag

/-- The order of the size suffix after a number for `-h`: `K` (or `k`) is 1, `M` 2 and so on
to `Q`; negative numbers have negative orders and a number whose digits are all zero has none. -/
def unitOrder (s : String) : Int :=
  let cs := s.toList.dropWhile sortBlank
  let (neg, cs) := match cs with
    | '-' :: r => (true, r)
    | r => (false, r)
  let whole := cs.takeWhile Char.isDigit
  let rest := cs.drop whole.length
  let (frac, rest) := match rest with
    | '.' :: r => (r.takeWhile Char.isDigit, r.drop (r.takeWhile Char.isDigit).length)
    | r => ([], r)
  let nonzero := (whole ++ frac).any (· != '0')
  let order : Int := match rest.head? with
    | some c => (("KMGTPEZYRQ".toList.idxOf? (if c == 'k' then 'K' else c)).map fun i => ((i + 1 : Nat) : Int)).getD 0
    | none => 0
  if !nonzero then 0 else if neg then -order else order

/-- Compares two texts as sizes with suffixes: the suffix's order first, then the numbers. -/
def compareHuman (a b : String) : Ordering :=
  match compare (unitOrder a) (unitOrder b) with
  | .eq => compareNumeric a b
  | o => o

/-- The month a text starts with, after blanks: 1 to 12 for the three-letter names in any
case, 0 for none. -/
def monthOf (s : String) : Nat :=
  let start := upperAscii (String.ofList ((s.toList.dropWhile sortBlank).take 3))
  let names := ["JAN", "FEB", "MAR", "APR", "MAY", "JUN", "JUL", "AUG", "SEP", "OCT", "NOV", "DEC"]
  ((names.idxOf? start).map (· + 1)).getD 0

/-! ## Versions -/

/-- Whether a byte is an ASCII digit. -/
def byteDigit (c : Nat) : Bool := 48 ≤ c && c ≤ 57

/-- Whether a byte is an ASCII letter. -/
def byteAlpha (c : Nat) : Bool := (65 ≤ c && c ≤ 90) || (97 ≤ c && c ≤ 122)

/-- The weight of a byte outside numbers in a version: the end of the text before all but `~`,
digits next, then letters, then every other byte. -/
def versionWeight : Option Nat → Int
  | none => -1
  | some c =>
    if byteDigit c then 0
    else if byteAlpha c then c
    else if c == 126 then -2
    else c + 256

/-- Compares the parts of two versions between numbers, byte by byte while either side has a
byte that is not a digit: the order of the first pair that differs, or the rests from where
both reach a digit or their end. -/
def versionWords : Nat → List Nat → List Nat → Except Ordering (List Nat × List Nat)
  | 0, a, b => .ok (a, b)
  | fuel + 1, a, b =>
    let more (xs : List Nat) : Bool := match xs with
      | c :: _ => !byteDigit c
      | [] => false
    if !(more a || more b) then .ok (a, b)
    else
      let wa := versionWeight a.head?
      let wb := versionWeight b.head?
      if wa != wb then .error (compare wa wb)
      else versionWords fuel a.tail b.tail

/-- Compares two versions: words by their bytes and numbers by their values, in turn. -/
def versionParts : Nat → List Nat → List Nat → Ordering
  | 0, _, _ => .eq
  | fuel + 1, a, b =>
    if a.isEmpty && b.isEmpty then .eq
    else
      match versionWords (a.length + b.length + 1) a b with
      | .error o => o
      | .ok (a, b) =>
        let a := a.dropWhile (· == 48)
        let b := b.dropWhile (· == 48)
        let da := a.takeWhile byteDigit
        let db := b.takeWhile byteDigit
        match compare da.length db.length with
        | .eq =>
          match compare da db with
          | .eq => versionParts fuel (a.drop da.length) (b.drop db.length)
          | o => o
        | o => o

/-- Skips the suffixes `.x...` that start at a place: a point, a letter or `~`, then letters,
digits and `~`; the place after them. -/
def skipSuffixes (s : Array Nat) : Nat → Nat → Nat
  | 0, i => i
  | fuel + 1, i =>
    let n := s.size
    let c1 := s.getD (i + 1) 0
    if i + 1 < n && s.getD i 0 == 46 && (byteAlpha c1 || c1 == 126) then
      let rest := ((s.toList.drop (i + 2)).takeWhile fun c => byteAlpha c || byteDigit c || c == 126).length
      skipSuffixes s fuel (i + 2 + rest)
    else i

/-- Where the file suffixes at the end of a name start: the longest tail of suffixes such as
`.tar.gz` found by scanning from the front. -/
def suffixStart (s : Array Nat) : Nat :=
  let rec go : Nat → Nat → Nat → Nat
    | 0, _, before => before
    | fuel + 1, i, before =>
      if i ≥ s.size then before
      else
        let i := i + 1
        go fuel (skipSuffixes s (s.size + 1) i) i
  go (s.size + 1) 0 0

/-- Compares two texts as versions of names: the empty text first, then `.`, `..` and other
names starting with a point; otherwise the names without their suffixes, and then with them. -/
def compareVersion (a b : String) : Ordering :=
  let x := a.toUTF8.toList.map (·.toNat)
  let y := b.toUTF8.toList.map (·.toNat)
  let dotted (xs : List Nat) : Bool := xs.head? == some 46
  if x.isEmpty || y.isEmpty then compare (!x.isEmpty) (!y.isEmpty)
  else if dotted x != dotted y then (if dotted x then .lt else .gt)
  else if dotted x && (x == [46] || y == [46]) then compare (x != [46]) (y != [46])
  else if dotted x && (x == [46, 46] || y == [46, 46]) then compare (x != [46, 46]) (y != [46, 46])
  else
    let px := suffixStart x.toArray
    let py := suffixStart y.toArray
    let fuel := x.length + y.length + 1
    match versionParts fuel (x.take px) (y.take py) with
    | .eq => if px == x.length && py == y.length then .eq else versionParts fuel x y
    | o => o

/-! ## Comparing lines -/

/-- Compares texts by their bytes. -/
def compareBytes (a b : String) : Ordering :=
  compare a.toUTF8.toList b.toUTF8.toList

/-- Whether `-d` keeps a character: an ASCII letter or digit, or a blank. -/
def dictionaryChar (c : Char) : Bool :=
  c.isAlphanum || c == ' ' || c == '\t'

/-- Whether `-i` keeps a character: a printable ASCII one. -/
def printableChar (c : Char) : Bool :=
  ' ' ≤ c && c ≤ '~'

/-- Compares the texts of a key by its rule, after dropping and folding the characters its
options say. -/
def compareKeyTexts (o : KeyOptions) (a b : String) : Ordering :=
  let prepare (s : String) : String :=
    let cs := s.toList
    let cs := if o.dictionary then cs.filter dictionaryChar else cs
    let cs := if o.printable then cs.filter printableChar else cs
    let t := String.ofList cs
    if o.fold then upperAscii t else t
  let a := prepare a
  let b := prepare b
  match o.rule with
  | .numeric => compareNumeric a b
  | .general => compareGeneral a b
  | .human => compareHuman a b
  | .month => compare (monthOf a) (monthOf b)
  | .version => compareVersion a b
  | .bytes | .random => compareBytes a b

/-- The order of two lines by a list of keys, the first that tells them apart, each reversed
when it says so. -/
def keyOrder (sep : Option Char) (keys : List SortKey) (a b : String) : Ordering :=
  keys.foldl (fun o k =>
    match o with
    | .eq =>
      let o := compareKeyTexts k.options (keyText sep k a) (keyText sep k b)
      if k.options.reverse then o.swap else o
    | _ => o) .eq

/-- The order of two lines: by their keys, and when those tie by all their bytes, reversed by the
global `-r`. Without `lastResort` (`-s` or `-u`) keys that tie leave the lines equal; lines
without keys always compare by their bytes. -/
def lineOrder (sep : Option Char) (keys : List SortKey) (lastResort reverse : Bool)
    (a b : String) : Ordering :=
  match keyOrder sep keys a b with
  | .eq =>
    if !keys.isEmpty && !lastResort then .eq
    else
      let o := compareBytes a b
      if reverse then o.swap else o
  | o => o

/-- Merges sorted lists of lines: the least first line of all, the earlier list first on ties,
again and again. With `unique` a line is kept only when it differs from the last one kept. -/
def mergeLines (order : String → String → Ordering) (same : String → String → Bool)
    (unique : Bool) : Nat → List (List String) → Option String → List String
  | 0, _, _ => []
  | fuel + 1, lists, last =>
    -- the list whose first line is least, the first such on ties
    let pick := lists.zipIdx.foldl (fun (best : Option (String × Nat)) (l, i) =>
      match l.head?, best with
      | some x, some (y, _) => if order x y == .lt then some (x, i) else best
      | some x, none => some (x, i)
      | none, _ => best) none
    match pick with
    | none => []
    | some (line, i) =>
      let lists := lists.modify i List.tail
      if unique && (last.map (same · line)).getD false then mergeLines order same unique fuel lists last
      else line :: mergeLines order same unique fuel lists (some line)

/-- Reads the tab of `-t`: one character, or `\0` for the zero character; the message when it
is empty or longer. -/
def readTab (arg : String) : Except String Char :=
  if arg.isEmpty then .error "empty tab"
  else if arg == "\\0" then .ok '\x00'
  else if arg.utf8ByteSize > 1 then .error ("multi-character tab " ++ quoteName arg)
  else .ok (arg.toList.headD ' ')

/-- What the options of `sort` ask for, read in order: the global options, the keys, the check
(`c` to report the first disorder, `C` to report nothing), the separator and the output file. -/
structure SortSettings where
  global : KeyOptions := {}
  keys : List SortKey := []
  check : Option Char := none
  tab : Option Char := none
  output : Option String := none
  deriving Inhabited

/-- The words of `--sort` and the letters they stand for. -/
def sortWords : List (String × Char) :=
  [("general-numeric", 'g'), ("human-numeric", 'h'), ("month", 'M'), ("numeric", 'n'),
    ("random", 'R'), ("version", 'V')]

/-- The words of `--check` and the checks they ask for. -/
def checkWords : List (String × Char) :=
  [("quiet", 'C'), ("silent", 'C'), ("diagnose-first", 'c')]

/-- Why `sort` refuses its options: a message (status 2), or an argument of an option that
names none of its choices, or several. -/
inductive SortRefusal where
  | message (text : String)
  | argument (option arg : String) (choices : List (String × Char)) (ambiguous : Bool)

/-- Takes one option into the settings, or the refusal. -/
def SortSettings.take (s : SortSettings) (opt : String × String) : Except SortRefusal SortSettings :=
  let (key, arg) := opt
  let letter (c : Char) : SortSettings :=
    { s with global := (s.global.set true true c).getD s.global }
  let checking (c : Char) : Except SortRefusal SortSettings :=
    if s.check.any (· != c) then .error (.message "options \x27-cC\x27 are incompatible")
    else .ok { s with check := some c }
  match key.toList with
  | [c] =>
    if "bdfghiMnRrV".toList.contains c then .ok (letter c)
    else if c == 'C' then checking 'C'
    else if c == 'c' then
      if arg.isEmpty then checking 'c'
      else
        match matchArgument checkWords arg with
        | .ok c => checking c
        | .error amb => .error (.argument "--check" arg checkWords amb)
    else if c == 'k' then
      match readKeySpec arg with
      | .ok k => .ok { s with keys := s.keys ++ [k] }
      | .error m => .error (.message m)
    else if c == 't' then
      match readTab arg with
      | .error m => .error (.message m)
      | .ok t =>
        if s.tab.any (· != t) then .error (.message "incompatible tabs") else .ok { s with tab := some t }
    else if c == 'o' then
      if s.output.any (· != arg) then .error (.message "multiple output files specified")
      else .ok { s with output := some arg }
    else .ok s
  | _ =>
    if key == "sort" then
      match matchArgument sortWords arg with
      | .ok c => .ok (letter c)
      | .error amb => .error (.argument "--sort" arg sortWords amb)
    else .ok s

/-- Reads the options of `sort` in order, stopping at the first refusal. -/
def SortSettings.read (opts : OptList) : Except SortRefusal SortSettings :=
  opts.foldlM SortSettings.take {}

/-- The keys to compare by. A key that sets no option but `r` takes the global options; without
keys, the whole line is the key when the global options set any but `r`. -/
def SortSettings.orderKeys (s : SortSettings) : List SortKey :=
  if s.keys.isEmpty then (if s.global.isPlain then [] else [wholeLineKey s.global])
  else
    s.keys.map fun k =>
      if k.options.isPlain && !k.options.reverse then { k with options := s.global } else k

/-- `sort`: sorts the lines of its inputs, or merges them with `-m`, or checks that they are
sorted with `-c` or `-C`. -/
def sort (inv : Invocation) : Completion :=
  let specs : List OptSpec := [
    { key := "b", short := some 'b', long := some "ignore-leading-blanks" },
    { key := "c", short := some 'c' },
    { key := "c", long := some "check", arg := .optional },
    { key := "C", short := some 'C' },
    { key := "d", short := some 'd', long := some "dictionary-order" },
    { key := "f", short := some 'f', long := some "ignore-case" },
    { key := "g", short := some 'g', long := some "general-numeric-sort" },
    { key := "h", short := some 'h', long := some "human-numeric-sort" },
    { key := "i", short := some 'i', long := some "ignore-nonprinting" },
    { key := "k", short := some 'k', long := some "key", arg := .required },
    { key := "m", short := some 'm', long := some "merge" },
    { key := "M", short := some 'M', long := some "month-sort" },
    { key := "n", short := some 'n', long := some "numeric-sort" },
    { key := "o", short := some 'o', long := some "output", arg := .required },
    { key := "r", short := some 'r', long := some "reverse" },
    { key := "R", short := some 'R', long := some "random-sort" },
    { key := "s", short := some 's', long := some "stable" },
    { key := "sort", long := some "sort", arg := .required },
    { key := "S", short := some 'S', long := some "buffer-size", arg := .required },
    { key := "t", short := some 't', long := some "field-separator", arg := .required },
    { key := "T", short := some 'T', long := some "temporary-directory", arg := .required },
    { key := "u", short := some 'u', long := some "unique" },
    { key := "V", short := some 'V', long := some "version-sort" },
    { key := "z", short := some 'z', long := some "zero-terminated" },
    { key := "help", long := some "help" },
    { key := "version", long := some "version" }]
  let refuse (r : SortRefusal) : Completion :=
    match r with
    | .message m => inv.finish 2 "" (inv.message m)
    | .argument o a cs amb => inv.argumentFailure o a cs amb
  match parseOptionsInOrder specs false inv.args with
  | .error (before, e) =>
    match SortSettings.read before with
    | .error r => refuse r
    | .ok _ => inv.optionFailure 2 e
  | .ok (opts, files) =>
    match SortSettings.read opts with
    | .error r => refuse r
    | .ok s =>
    let keys := s.orderKeys
    match keys.find? (·.options.conflicting) with
    | some k =>
      inv.finish 2 "" (inv.message ("options \x27-" ++ k.options.ruleLetters ++ "\x27 are incompatible"))
    | none =>
    let files := if files.isEmpty then ["-"] else files
    let unique := opts.has "u"
    let order := lineOrder s.tab keys (!(opts.has "s" || unique)) s.global.reverse
    let delimiter := if opts.has "z" then "\x00" else "\n"
    let records (t : String) : List String :=
      let parts := t.splitOn delimiter
      if t.isEmpty || t.endsWith delimiter then parts.dropLast else parts
    let input := if files.contains "-" then "" else inv.input
    let readInput (f : String) : Except String String :=
      if f == "-" then .ok inv.input
      else
        match inv.read f with
        | .ok t => .ok t
        | .error e =>
          let what := if e.errno == .isDir then "read failed: " else "open failed: "
          .error (inv.message (what ++ quoteIfNeeded f ++ ": " ++ errnoText e.errno))
    match s.check with
    | some c =>
      match files with
      | _ :: extra :: _ =>
        inv.finish 2 "" (inv.message ("extra operand " ++ quoteAlways extra ++ " not allowed with -" ++
          String.singleton c))
      | _ =>
      if s.output.isSome then
        inv.finish 2 "" (inv.message ("options \x27-" ++ String.singleton c ++ "o\x27 are incompatible"))
      else
        let file := files.headD "-"
        match readInput file with
        | .error m => { inv.finish 2 "" m with input }
        | .ok t =>
          let lines := records t
          let bad := (lines.zip (lines.drop 1)).zipIdx.find? fun ((a, b), _) =>
            match order a b with
            | .gt => true
            | .eq => unique
            | .lt => false
          match bad with
          | some ((_, b), i) =>
            { inv.finish 1 "" (if c == 'C' then "" else
                inv.message (file ++ ":" ++ toString (i + 2) ++ ": disorder: " ++ b)) with input }
          | none => { inv.finish 0 "" "" with input }
    | none =>
    -- every input must be readable before any is read, and the output open
    let denied := files.filterMap fun f =>
      if f == "-" then none
      else
        match inv.read f with
        | .error e => if e.errno == .isDir then none else some (f, e.errno)
        | .ok _ => none
    match denied with
    | (f, errno) :: _ =>
      inv.finish 2 "" (inv.message ("cannot read: " ++ quoteIfNeeded f ++ ": " ++ errnoText errno))
    | [] =>
    let opened : Except String FileTree :=
      match s.output with
      | none => .ok inv.tree
      | some path =>
        match inv.read path with
        | .ok _ => .ok inv.tree
        | .error _ =>
          (inv.tree.writeFile inv.cwd path "").mapError fun e =>
            inv.message ("open failed: " ++ quoteIfNeeded path ++ ": " ++ errnoText e.errno)
    match opened with
    | .error m => inv.finish 2 "" m
    | .ok tree =>
    match files.mapM readInput with
    | .error m => { status := 2, writes := outThenErr "" m, tree, input }
    | .ok texts =>
      let lines := texts.flatMap records
      let sorted :=
        if opts.has "m" then
          mergeLines order (fun a b => order a b == .eq) unique (lines.length + 1)
            (texts.map records) none
        else
          let sorted := lines.mergeSort fun a b => order a b != .gt
          if unique then
            sorted.foldl (fun (acc : List String) l =>
              match acc with
              | prev :: _ => if order prev l == .eq then acc else l :: acc
              | [] => [l]) [] |>.reverse
          else sorted
      let text := String.join (sorted.map (· ++ delimiter))
      match s.output with
      | some path =>
        match tree.writeFile inv.cwd path text with
        | .ok t => { status := 0, tree := t, input }
        | .error e =>
          { status := 2, tree, input
            writes := outThenErr "" (inv.message ("open failed: " ++ quoteIfNeeded path ++ ": " ++
              errnoText e.errno)) }
      | none => { status := 0, writes := outThenErr text "", tree, input }

end Regress.Shell
