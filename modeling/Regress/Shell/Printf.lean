import Regress.Number.Rounded
import Regress.Shell.Backslash
import Regress.Shell.Utility.Quote

/-!
# printf formats

The format language of `printf`: text with backslash escapes and conversions
`%[flags][width][.precision]conversion`, applied to arguments until they are used up.

* **Conversions.** `d` and `i` take signed 64-bit integers, `o u x X` unsigned ones (so `-1`
  is `18446744073709551615`), `e E f F g G a A` doubles, `c` the first character of its
  argument, `s` its argument, and `b` its argument with the escapes of `echo` done. Flags are
  `#-+ 0`; width and precision may be `*`, taken from the arguments.
* **Numbers.** An integer argument is read with its base from its prefix (`0x` hexadecimal, `0`
  octal), after blanks and a sign; one that starts with a quote is the code of the character
  after it. A double is read in decimal or hexadecimal, or as `inf` or `nan`. An argument that
  is not a number, or not all of one, or out of range, is reported and gives what could be read.
* **Repeats.** The format is used again while arguments are left and the last pass used some;
  missing arguments read as empty or zero.
* **Errors.** A conversion character that is not one of these, or a `%` at the end, stops the
  output there. Each complaint is kept with how much output was made before it, so that a
  caller can write it where it came.
* **Bash.** Bash's `printf` reads its escapes its own way (`\x`, `\u`, `\e` among them), passes
  over the length modifiers of C (`h j l L t z`) and has `%q`.
-/

namespace Regress.Shell

/-- The characters the number readers skip before a number. -/
def isNumberSpace (c : Char) : Bool :=
  c == ' ' || c == '\t' || c == '\n' || c == '\x0b' || c == '\x0c' || c == '\r'

/-- The value of a digit in a base, if it is one. -/
def baseDigit (base : Nat) (c : Char) : Option Nat :=
  let v := if c.isDigit then some (c.toNat - 48)
    else if 'a' ≤ c && c ≤ 'z' then some (c.toNat - 87)
    else if 'A' ≤ c && c ≤ 'Z' then some (c.toNat - 55)
    else none
  v.bind fun d => if d < base then some d else none

/-- Reads digits of a base: their value and the rest. -/
def readBaseDigits (base : Nat) (cs : List Char) : Nat × Nat × List Char :=
  let ds := cs.takeWhile fun c => (baseDigit base c).isSome
  (ds.foldl (fun n c => n * base + (baseDigit base c).getD 0) 0, ds.length, cs.drop ds.length)

/-- Reads an integer with its base from its prefix, after blanks and a sign: whether it is
negative, its magnitude and the rest; `none` when no digit is there. -/
def scanInteger (cs : List Char) : Option (Bool × Nat × List Char) :=
  let cs := cs.dropWhile isNumberSpace
  let (negative, cs) := match cs with
    | '-' :: r => (true, r)
    | '+' :: r => (false, r)
    | r => (false, r)
  match cs with
  | '0' :: x :: rest =>
    if (x == 'x' || x == 'X') && (rest.head?.bind (baseDigit 16)).isSome then
      let (v, _, after) := readBaseDigits 16 rest
      some (negative, v, after)
    else
      let (v, _, after) := readBaseDigits 8 ('0' :: x :: rest)
      some (negative, v, after)
  | d :: _ =>
    if d.isDigit then
      let (v, _, after) := readBaseDigits 10 cs
      some (negative, v, after)
    else none
  | [] => none

/-- What was wrong with a numeric argument: nothing numeric in it, more after the number, or
a number out of range. -/
inductive NumberFault where
  | notNumeric
  | notComplete
  | outOfRange
  deriving Repr, DecidableEq, Inhabited

/-- The largest signed 64-bit integer plus one. -/
def twoTo63 : Nat := Nat.pow 2 63

/-- Two to the sixty-fourth. -/
def twoTo64 : Nat := Nat.pow 2 64

/-- The fault a read leaves, from the text after it. -/
def restFault (whole rest : List Char) (consumed : Bool) : Option NumberFault :=
  if rest.isEmpty then none
  else if !consumed || rest.length == whole.length then some .notNumeric
  else some .notComplete

/-- The byte a character of an octet text is: what a quoted character argument stands for. -/
def leadByte (c : Char) : Nat :=
  c.toNat

/-- Reads a signed 64-bit integer argument: its value and a fault, if any. -/
def signedArg (s : String) : Int × Option NumberFault :=
  let cs := s.toList
  match cs with
  | q :: c :: _ => if q == '\'' || q == '"' then (leadByte c, none) else signedDigits cs
  | [q] => if q == '\'' || q == '"' then (0, none) else signedDigits cs
  | [] => (0, none)
where
  /-- The signed value of the digits. -/
  signedDigits (cs : List Char) : Int × Option NumberFault :=
    match scanInteger cs with
    | none => (0, if cs.isEmpty then none else some .notNumeric)
    | some (negative, v, rest) =>
      let (value, range) : Int × Bool :=
        if negative then (if v > twoTo63 then (-(twoTo63 : Int), true) else (-(v : Int), false))
        else if v ≥ twoTo63 then ((twoTo63 : Int) - 1, true) else ((v : Int), false)
      match restFault cs rest true with
      | some f => (value, some f)
      | none => (value, if range then some .outOfRange else none)

/-- Reads an unsigned 64-bit integer argument: its value and a fault, if any. A negative
number wraps around. -/
def unsignedArg (s : String) : Nat × Option NumberFault :=
  let cs := s.toList
  match cs with
  | q :: c :: _ => if q == '\'' || q == '"' then (leadByte c, none) else unsignedDigits cs
  | [q] => if q == '\'' || q == '"' then (0, none) else unsignedDigits cs
  | [] => (0, none)
where
  /-- The unsigned value of the digits. -/
  unsignedDigits (cs : List Char) : Nat × Option NumberFault :=
    match scanInteger cs with
    | none => (0, if cs.isEmpty then none else some .notNumeric)
    | some (negative, v, rest) =>
      let (value, range) :=
        if v ≥ twoTo64 then (twoTo64 - 1, true)
        else if negative && v != 0 then (twoTo64 - v, false) else (v, false)
      match restFault cs rest true with
      | some f => (value, some f)
      | none => (value, if range then some .outOfRange else none)

/-- A double argument: a finite double, an infinity or not a number, each with its sign. -/
inductive FloatArg where
  | finite (b : Binary64)
  | infinite (negative : Bool)
  | nan (negative : Bool)
  deriving Repr, DecidableEq, Inhabited

/-- Whether a text starts with a word, ignoring case: the rest after it. -/
def startsIgnoringCase (cs : List Char) (w : String) : Option (List Char) :=
  let n := w.length
  if (cs.take n).map Char.toLower == w.toList then some (cs.drop n) else none

/-- Reads a double: the value, the rest and whether it was out of range; `none` when no number
is there. -/
def scanFloat (cs : List Char) : Option (FloatArg × List Char × Bool) :=
  let cs := cs.dropWhile isNumberSpace
  let (negative, cs) := match cs with
    | '-' :: r => (true, r)
    | '+' :: r => (false, r)
    | r => (false, r)
  match startsIgnoringCase cs "infinity" with
  | some rest => some (.infinite negative, rest, false)
  | none =>
  match startsIgnoringCase cs "inf" with
  | some rest => some (.infinite negative, rest, false)
  | none =>
  match startsIgnoringCase cs "nan" with
  | some rest =>
    let rest := match rest with
      | '(' :: more =>
        let inner := more.takeWhile fun c => c.isAlphanum || c == '_'
        match more.drop inner.length with
        | ')' :: after => after
        | _ => rest
      | _ => rest
    some (.nan negative, rest, false)
  | none =>
    let hex := match cs with
      | '0' :: x :: rest =>
        if x == 'x' || x == 'X' then
          let (v, n, after) := readBaseDigits 16 rest
          let (f, m, after) := match after with
            | '.' :: more => readBaseDigits 16 more
            | _ => (0, 0, after)
          if n + m == 0 then none
          else
            let (e, after) := match after with
              | p :: more =>
                if p == 'p' || p == 'P' then
                  let (eneg, digits) := match more with
                    | '-' :: r => (true, r)
                    | '+' :: r => (false, r)
                    | r => (false, r)
                  let (ev, en, eafter) := readBaseDigits 10 digits
                  if en == 0 then ((0 : Int), after) else ((if eneg then -(ev : Int) else ev), eafter)
                else (0, after)
              | [] => (0, after)
            let mant := v * Nat.pow 16 m + f
            let exp2 : Int := e - 4 * (m : Int)
            let bits : Int := (Nat.log2 mant : Int) + exp2
            let value := if mant == 0 then some (Binary64.zero negative)
              else if bits > 1100 then none
              else if bits < -1200 then some (Binary64.zero negative)
              else if exp2 ≥ 0 then Binary64.ofRatio negative (mant * Nat.pow 2 exp2.toNat) 1
              else Binary64.ofRatio negative mant (Nat.pow 2 exp2.natAbs)
            match value with
            | some b => some (.finite b, after, b.isZero && mant != 0)
            | none => some (.infinite negative, after, true)
        else none
      | _ => none
    match hex with
    | some r => some r
    | none =>
      let whole := cs.takeWhile Char.isDigit
      let rest := cs.drop whole.length
      let (frac, rest) := match rest with
        | '.' :: more =>
          let f := more.takeWhile Char.isDigit
          (f, more.drop f.length)
        | _ => ([], rest)
      if whole.isEmpty && frac.isEmpty then none
      else
        let (e, rest) := match rest with
          | x :: more =>
            if x == 'e' || x == 'E' then
              let (eneg, digits) := match more with
                | '-' :: r => (true, r)
                | '+' :: r => (false, r)
                | r => (false, r)
              let ds := digits.takeWhile Char.isDigit
              if ds.isEmpty then ((0 : Int), rest)
              else
                let v := (String.ofList ds).toNat?.getD 0
                ((if eneg then -(v : Int) else v), digits.drop ds.length)
            else (0, rest)
          | [] => (0, rest)
        let digits := (String.ofList (whole ++ frac)).toNat?.getD 0
        let exponent := e - (frac.length : Int)
        match Binary64.ofDecimal negative digits exponent with
        | some b => some (.finite b, rest, b.isZero && digits != 0)
        | none => some (.infinite negative, rest, true)

/-- Reads a double argument: its value and a fault, if any. -/
def floatArg (s : String) : FloatArg × Option NumberFault :=
  let cs := s.toList
  match cs with
  | q :: c :: _ =>
    if q == '\'' || q == '"' then (.finite (Binary64.ofInt (leadByte c)), none) else floatDigits cs
  | [q] => if q == '\'' || q == '"' then (.finite (Binary64.zero false), none) else floatDigits cs
  | [] => (.finite (Binary64.zero false), none)
where
  /-- The value of the number in the text. -/
  floatDigits (cs : List Char) : FloatArg × Option NumberFault :=
    match scanFloat cs with
    | none => (.finite (Binary64.zero false), some .notNumeric)
    | some (v, rest, range) =>
      match restFault cs rest true with
      | some f => (v, some f)
      | none => (v, if range then some .outOfRange else none)

/-- A conversion of a format: its flags, width and precision, and its character. -/
structure Directive where
  flags : List Char
  width : Option Nat
  precision : Option Nat
  conv : Char
  deriving Repr, Inhabited

namespace Directive

/-- Whether a flag is given. -/
def has (d : Directive) (c : Char) : Bool :=
  d.flags.contains c

/-- Pads text to the width: on the right with `-`, else on the left with spaces, or with zeros
after `lead` when `zeros`. -/
def pad (d : Directive) (lead body : String) (zeros : Bool) : String :=
  let len := lead.length + body.length
  let w := d.width.getD 0
  if len ≥ w then lead ++ body
  else
    let fill := w - len
    if d.has '-' then lead ++ body ++ String.ofList (List.replicate fill ' ')
    else if zeros then lead ++ String.ofList (List.replicate fill '0') ++ body
    else String.ofList (List.replicate fill ' ') ++ lead ++ body

/-- The sign of a number: `-`, or what the `+` and space flags ask for a non-negative one. -/
def sign (d : Directive) (negative : Bool) : String :=
  if negative then "-" else if d.has '+' then "+" else if d.has ' ' then " " else ""

end Directive

/-- Formats an integer: signed conversions take `negative` into account. -/
def formatInteger (d : Directive) (negative : Bool) (mag : Nat) : String :=
  let base := if d.conv == 'o' then 8 else if d.conv == 'x' || d.conv == 'X' then 16 else 10
  let ds := Nat.toDigits base mag
  let ds := if d.conv == 'X' then ds.map Char.toUpper else ds
  let ds := if d.precision == some 0 && mag == 0 then [] else ds
  let ds := List.replicate ((d.precision.getD 0) - ds.length) '0' ++ ds
  let ds := if d.conv == 'o' && d.has '#' && ds.head? != some '0' then '0' :: ds else ds
  let pre := if (d.conv == 'x' || d.conv == 'X') && d.has '#' && mag != 0 then
      (if d.conv == 'X' then "0X" else "0x") else ""
  let signText := if d.conv == 'd' || d.conv == 'i' then d.sign negative else ""
  d.pad (signText ++ pre) (String.ofList ds) (d.has '0' && d.precision.isNone)

/-- Removes the zeros at the end of a fraction, and the point when nothing is left after it. -/
def trimFraction (s : String) : String :=
  if !s.contains '.' then s
  else
    let cs := (s.toList.reverse.dropWhile (· == '0'))
    let cs := match cs with
      | '.' :: r => r
      | r => r
    String.ofList cs.reverse

/-- The digits of a double in `e` style: mantissa with `places` decimals and the exponent. -/
def expStyle (b : Binary64) (places : Nat) (alt : Bool) (upper : Bool) : String :=
  let (ds, x) := b.scientific places
  let first := String.ofList (ds.toList.take 1)
  let rest := String.ofList (ds.toList.drop 1)
  let mag := toString x.natAbs
  first ++ (if places > 0 || alt then "." ++ rest else "") ++ (if upper then "E" else "e") ++
    (if x < 0 then "-" else "+") ++ (if mag.length < 2 then "0" else "") ++ mag

/-- Formats a double; with `wide`, `a` and `A` lay it out as an extended double. -/
def formatFloatWith (wide : Bool) (d : Directive) (v : FloatArg) : String :=
  let upper := d.conv == 'E' || d.conv == 'F' || d.conv == 'G' || d.conv == 'A'
  let special (negative : Bool) (word : String) : String :=
    d.pad (d.sign negative) (if upper then word.toUpper else word) false
  match v with
  | .infinite negative => special negative "inf"
  | .nan negative => special negative "nan"
  | .finite b =>
    let alt := d.has '#'
    let body :=
      if d.conv == 'f' || d.conv == 'F' then
        let p := d.precision.getD 6
        let (ip, fp) := b.fixed p
        ip ++ (if p > 0 || alt then "." ++ fp else "")
      else if d.conv == 'e' || d.conv == 'E' then expStyle b (d.precision.getD 6) alt upper
      else if d.conv == 'g' || d.conv == 'G' then
        let p := match d.precision with
          | some 0 => 1
          | some n => n
          | none => 6
        let (_, x) := b.scientific (p - 1)
        let text :=
          if x < p && x ≥ -4 then
            let places := (p : Int) - 1 - x
            let (ip, fp) := b.fixed places.toNat
            ip ++ (if places > 0 || alt then "." ++ fp else "")
          else expStyle b (p - 1) alt upper
        if alt then text
        else
          match text.splitOn (if upper then "E" else "e") with
          | [m, e] => trimFraction m ++ (if upper then "E" else "e") ++ e
          | _ => trimFraction text
      else
        let (lead, frac, exp) := if wide then b.wideHexParts d.precision else b.hexParts d.precision
        let digits := if upper then frac.toUpper else frac
        toString lead ++ (if !frac.isEmpty || alt then "." ++ digits else "") ++
          (if upper then "P" else "p") ++ (if exp < 0 then "-" else "+") ++ toString exp.natAbs
    let pre := if d.conv == 'a' || d.conv == 'A' then (if upper then "0X" else "0x") else ""
    d.pad (d.sign b.negative ++ pre) body (d.has '0')

/-- Formats a double. -/
def formatFloat (d : Directive) (v : FloatArg) : String :=
  formatFloatWith false d v

/-- Formats text for `s`, `b` and `c`: cut to the precision and padded to the width. -/
def formatText (d : Directive) (s : String) : String :=
  let s := match d.precision with
    | some p => if d.conv == 'c' then s else String.ofList (s.toList.take p)
    | none => s
  d.pad "" s false

/-- Reads the escapes of a format after a backslash: the character and the rest. An unknown
escape stands for a backslash, leaving the character after it to be read. -/
def formatEscape (cs : List Char) : Char × List Char :=
  match cs with
  | c :: rest =>
    if '0' ≤ c && c ≤ '7' then
      let ds := (cs.takeWhile fun d => '0' ≤ d && d ≤ '7').take 3
      (Char.ofNat (ds.foldl (fun n d => n * 8 + (d.toNat - 48)) 0 % 256), cs.drop ds.length)
    else if c == '\\' then ('\\', rest) else if c == 'a' then ('\x07', rest)
    else if c == 'b' then ('\x08', rest) else if c == 'e' then ('\x1b', rest)
    else if c == 'f' then ('\x0c', rest)
    else if c == 'n' then ('\n', rest) else if c == 'r' then ('\r', rest)
    else if c == 't' then ('\t', rest) else if c == 'v' then ('\x0b', rest)
    else ('\\', cs)
  | [] => ('\\', [])

/-- The text of an argument of `b`, with the escapes of `echo` done: `\0` and up to three octal
digits, the escapes of a format, and `\c`, which ends all output. Whether `\c` came. -/
def echoEscapes : Nat → List Char → List Char × Bool
  | 0, cs => (cs, false)
  | _ + 1, [] => ([], false)
  | fuel + 1, '\\' :: rest =>
    match rest with
    | 'c' :: _ => ([], true)
    | '0' :: more =>
      let ds := (more.takeWhile fun d => '0' ≤ d && d ≤ '7').take 3
      let c := Char.ofNat (ds.foldl (fun n d => n * 8 + (d.toNat - 48)) 0 % 256)
      let (t, stop) := echoEscapes fuel (more.drop ds.length)
      (c :: t, stop)
    | _ =>
      let (c, after) := formatEscape rest
      let (t, stop) := echoEscapes fuel after
      (c :: t, stop)
  | fuel + 1, c :: rest =>
    let (t, stop) := echoEscapes fuel rest
    (c :: t, stop)

/-- A complaint of `printf` while it formats: about a numeric argument, or about an escape. -/
inductive Complaint where
  | number (arg : String) (fault : NumberFault)
  | escape (message : String)
  deriving Inhabited

/-- Why a format stops: a directive that ends before its conversion character, or one whose
conversion character the format does not know; each with the directive's text from its `%`. -/
inductive FormatFault where
  | missing (directive : String)
  | invalid (directive : String)
  deriving Inhabited

/-- What a pass of a format produced: the text, the complaints with how much of the text was
made when each came, whether `\c` stopped all output, a fatal error that ended it, and the
arguments a format that takes none left unused. -/
structure FormatRun where
  out : String := ""
  complaints : List (Nat × Complaint) := []
  stopped : Bool := false
  fatal : Option FormatFault := none
  unused : List String := []
  deriving Inhabited

/-- Takes the next argument, or none when they are used up. -/
def nextArg (args : List String) : Option String × List String :=
  match args with
  | a :: rest => (some a, rest)
  | [] => (none, [])

/-- Reads the digits of a width or precision. -/
def readDigitsNat (cs : List Char) : Option Nat × List Char :=
  let ds := cs.takeWhile Char.isDigit
  (if ds.isEmpty then none else (String.ofList ds).toNat?, cs.drop ds.length)

/-- Whether a text needs the quoting of `$\x27...\x27`: it holds a character that does not print. -/
def needsAnsiQuote (s : String) : Bool :=
  s.any fun c => c.toNat < 32 || c.toNat == 127

/-- A text in the quoting of `$\x27...\x27`, with the escapes of C for what does not print. -/
def ansiQuote (s : String) : String :=
  let octal (n : Nat) : String :=
    "\\" ++ String.ofList [Char.ofNat (48 + n / 64), Char.ofNat (48 + n / 8 % 8), Char.ofNat (48 + n % 8)]
  "$\x27" ++ String.join (s.toList.map fun c =>
    if c == '\x07' then "\\a" else if c == '\x08' then "\\b" else if c == '\x1b' then "\\E"
    else if c == '\x0c' then "\\f" else if c == '\n' then "\\n" else if c == '\r' then "\\r"
    else if c == '\t' then "\\t" else if c == '\x0b' then "\\v" else if c == '\\' then "\\\\"
    else if c == '\x27' then "\\\x27"
    else if c.toNat < 32 || c.toNat == 127 then octal c.toNat
    else String.singleton c) ++ "\x27"

/-- A text quoted for the shell with backslashes before its special characters, as `%q` of
bash writes it when all of it prints; `~` and `#` only at the start. -/
def backslashQuote (s : String) : String :=
  let special := " \t\n\x27\"\\|&;()<>!\x7b\x7d*[?]^$,".toList ++ ['\x60']
  let rec go : List Char → Option Char → String
    | [], _ => ""
    | c :: rest, prev =>
      let atStart := prev.isNone
      let quoted :=
        if special.contains c then "\\" ++ String.singleton c
        else if c == '~' && (atStart || prev == some '=' || prev == some ':') then "\\~"
        else if c == '#' && atStart then "\\#"
        else String.singleton c
      quoted ++ go rest (some c)
  go s.toList none

/-- A text quoted for the shell as `%q` of bash quotes it: `\x27\x27` when empty. -/
def shellQuoted (s : String) : String :=
  if s.isEmpty then "\x27\x27" else if needsAnsiQuote s then ansiQuote s else backslashQuote s

/-- Which printf reads a format: the POSIX shell's builtin, bash's builtin, or the utility. -/
inductive PrintfFlavor where
  | shell
  | bash
  | utility
  deriving Repr, DecidableEq, Inhabited

mutual

/-- Goes through a format once: what it produced and the arguments left. Bash also has `%q`
with flags, width and precision; the utility has a bare `%q`, quoting as its messages do. -/
def formatPass (flavor : PrintfFlavor) : Nat → List Char → List String → FormatRun → FormatRun × List String
  | 0, _, args, run => (run, args)
  | _ + 1, [], args, run => (run, args)
  | fuel + 1, '\\' :: rest, args, run =>
    if flavor == .bash then
      let e := readEscape .format rest
      let run := match e.complaint with
        | some m => { run with complaints := run.complaints ++ [(run.out.length, Complaint.escape m)] }
        | none => run
      formatPass flavor fuel e.rest args { run with out := run.out ++ e.text }
    else
      let (c, after) := formatEscape rest
      formatPass flavor fuel after args { run with out := run.out.push c }
  | fuel + 1, '%' :: '%' :: rest, args, run => formatPass flavor fuel rest args { run with out := run.out.push '%' }
  | fuel + 1, '%' :: 'q' :: rest, args, run =>
    if flavor == .utility then
      let (a, args) := nextArg args
      formatPass flavor fuel rest args { run with out := run.out ++ quoteIfNeeded (a.getD "") }
    else formatDirective flavor fuel ('q' :: rest) args run
  | fuel + 1, '%' :: spec, args, run => formatDirective flavor fuel spec args run
  | fuel + 1, c :: rest, args, run => formatPass flavor fuel rest args { run with out := run.out.push c }

/-- Goes through a format from a directive after its `%`. -/
def formatDirective (flavor : PrintfFlavor) : Nat → List Char → List String → FormatRun → FormatRun × List String
  | 0, _, args, run => (run, args)
  | fuel + 1, spec, args, run =>
    let bash := flavor == .bash
    let flags := spec.takeWhile fun c => "#-+ 0".toList.contains c
    let rest := spec.drop flags.length
    let complain (run : FormatRun) (a : String) (f : Option NumberFault) : FormatRun :=
      match f with
      | some fault => { run with complaints := run.complaints ++ [(run.out.length, .number a fault)] }
      | none => run
    -- the width
    let (width, flags, rest, args, run) : Option Nat × List Char × List Char × List String × FormatRun :=
      match rest with
      | '*' :: more =>
        let (a, args) := nextArg args
        let (v, f) := signedArg (a.getD "")
        let run := complain run (a.getD "") f
        let more := more.dropWhile fun c => c == '*' || c.isDigit
        if v < 0 then (some v.natAbs, '-' :: flags, more, args, run) else (some v.toNat, flags, more, args, run)
      | _ =>
        let (w, more) := readDigitsNat rest
        (w, flags, more.dropWhile fun c => c == '*' || c.isDigit, args, run)
    let (precision, rest, args, run) : Option Nat × List Char × List String × FormatRun :=
      match rest with
      | '.' :: '*' :: more =>
        let (a, args) := nextArg args
        let (v, f) := signedArg (a.getD "")
        let run := complain run (a.getD "") f
        let more := more.dropWhile fun c => c == '*' || c.isDigit
        (if v < 0 then none else some v.toNat, more, args, run)
      | '.' :: more =>
        let (p, more) := readDigitsNat more
        (some (p.getD 0), more.dropWhile fun c => c == '*' || c.isDigit, args, run)
      | _ => (none, rest, args, run)
    -- bash passes over the length modifiers of C
    let rest := if bash then rest.dropWhile fun c => "hjlLtz".toList.contains c else rest
    match rest with
    | [] => ({ run with fatal := some (.missing ("%" ++ String.ofList spec)) }, args)
    | conv :: after =>
      let d : Directive := { flags, width, precision, conv }
      let directiveText := "%" ++ String.ofList (spec.take (spec.length - after.length))
      if conv == 'd' || conv == 'i' then
        let (a, args) := nextArg args
        let (v, f) := signedArg (a.getD "")
        formatPass flavor fuel after args { complain run (a.getD "") f with out := run.out ++ formatInteger d (v < 0) v.natAbs }
      else if conv == 'o' || conv == 'u' || conv == 'x' || conv == 'X' then
        let (a, args) := nextArg args
        let (v, f) := unsignedArg (a.getD "")
        formatPass flavor fuel after args { complain run (a.getD "") f with out := run.out ++ formatInteger d false v }
      else if "eEfFgGaA".toList.contains conv then
        let (a, args) := nextArg args
        let (v, f) := floatArg (a.getD "")
        formatPass flavor fuel after args { complain run (a.getD "") f with out := run.out ++ formatFloat d v }
      else if conv == 's' then
        let (a, args) := nextArg args
        formatPass flavor fuel after args { run with out := run.out ++ formatText d (a.getD "") }
      else if conv == 'c' then
        let (a, args) := nextArg args
        let c := ((a.getD "").toList.head?).getD '\x00'
        formatPass flavor fuel after args { run with out := run.out ++ formatText d (String.singleton c) }
      else if conv == 'b' then
        let (a, args) := nextArg args
        let cs := (a.getD "").toList
        let (text, stop, notes) :=
          if bash then bashEscapes .argument (cs.length + 1) cs
          else
            let (t, stop) := echoEscapes (cs.length + 1) cs
            (String.ofList t, stop, [])
        let run := { run with complaints := run.complaints ++ notes.map fun m => (run.out.length, Complaint.escape m) }
        let run := { run with out := run.out ++ formatText d text }
        if stop then ({ run with stopped := true }, args)
        else formatPass flavor fuel after args run
      else if conv == 'q' && bash then
        let (a, args) := nextArg args
        formatPass flavor fuel after args { run with out := run.out ++ formatText d (shellQuoted (a.getD "")) }
      else
        ({ run with fatal := some (.invalid directiveText) }, args)

end

/-- Applies a format to arguments, going through it again while arguments are left and the
last pass used some. -/
def formatAll (flavor : PrintfFlavor) (format : String) (args : List String) : FormatRun :=
  let cs := format.toList
  let rec go : Nat → List String → FormatRun → FormatRun
    | 0, _, run => run
    | fuel + 1, args, run =>
      let (run', left) := formatPass flavor (cs.length + 1) cs args run
      if run'.stopped || run'.fatal.isSome then run'
      else if left.isEmpty then run'
      else if left.length == args.length then { run' with unused := left }
      else go fuel left run'
  go (args.length + 1) args {}

end Regress.Shell
