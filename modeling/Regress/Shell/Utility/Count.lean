import Regress.Shell.Utility.Quote

/-!
# Counts in arguments

The utilities read counts such as offsets, widths and line numbers from their arguments in one
way: blanks in front, a sign, digits, and a suffix that scales the number.

* The digits are decimal, or, where the utility lets the text choose, hexadecimal after `0x`
  and octal after a leading `0`.
* A count that cannot be negative refuses a minus sign in front (after the blanks); a plus
  sign is always allowed.
* A suffix is one of the letters the utility accepts: `b` is 512, `B` 1024, `c` 1, `w` 2, and
  `k`, `M`, `G`, `T`, `P`, `E`, `Z`, `Y`, `R`, `Q` the powers of 1024 (lower-case `k`, `m`,
  `g` and `t` too). Where the utility allows it, such a power letter followed by `B` (or `D`)
  is a power of 1000 instead, and followed by `iB` stays a power of 1024.
* A text with no digits whose first character is a suffix counts as one, scaled.
* A count beyond the 64 bits of its type is too large, also once scaled; anything left after
  the suffix makes the suffix bad.

Two kinds of message report a count that does not read. One names the option and quotes the
argument plainly; the other names what the count is for, quotes the argument in the locale's
way, and tells why when the count read but lies outside what the utility takes.
-/

namespace Regress.Shell

/-- Why a count does not read: it is no count, its suffix is not one, or it is too large. -/
inductive CountTrouble where
  | invalid
  | badSuffix
  | tooLarge
  deriving Inhabited, BEq, DecidableEq

/-- How a utility reads a count: whether the text may choose its base, whether it may be
negative, the suffixes it accepts, and whether a power letter may be followed by `B` or `iB`. -/
structure CountStyle where
  anyBase : Bool := false
  signed : Bool := false
  suffixes : List Char := []
  powerTails : Bool := false
  deriving Inhabited

/-- The suffixes of byte counts: sizes of blocks and the powers of 1024 and 1000. -/
def byteSuffixes : List Char :=
  "bkKmMGTPEZY".toList

/-- Whether a character is a blank for the number readers. -/
def isNumberBlank (c : Char) : Bool :=
  c == ' ' || c == '\t' || c == '\n' || c == '\x0b' || c == '\x0c' || c == '\r'

/-- The value of a digit in a base. -/
def digitIn (base : Nat) (c : Char) : Option Nat :=
  let v := if c.isDigit then some (c.toNat - 48)
    else if 'a' ≤ c && c ≤ 'f' then some (c.toNat - 87)
    else if 'A' ≤ c && c ≤ 'F' then some (c.toNat - 55)
    else none
  v.filter (· < base)

/-- The base the digits of a count are in, and the text from its first digit. A `0x` with no
hexadecimal digit after it is a `0` followed by other text. -/
def countBase (anyBase : Bool) (cs : List Char) : Nat × List Char :=
  if !anyBase then (10, cs)
  else match cs with
    | '0' :: x :: rest =>
      if (x == 'x' || x == 'X') && (rest.head?.bind (digitIn 16)).isSome then (16, rest)
      else (8, cs)
    | '0' :: [] => (8, cs)
    | _ => (10, cs)

/-- The number the digits at the front of a text make in a base, and the text after them. -/
def leadingNumber (base : Nat) (cs : List Char) : Option Nat × List Char :=
  let ds := cs.takeWhile fun c => (digitIn base c).isSome
  if ds.isEmpty then (none, cs)
  else (some (ds.foldl (fun acc c => acc * base + (digitIn base c).getD 0) 0), cs.drop ds.length)

/-- What a suffix multiplies by, in a base for the power letters, if it is a suffix at all. -/
def suffixFactor (base : Nat) (c : Char) : Option Nat :=
  match c with
  | 'b' => some 512
  | 'B' => some 1024
  | 'c' => some 1
  | 'w' => some 2
  | 'k' | 'K' => some base
  | 'M' | 'm' => some (Nat.pow base 2)
  | 'G' | 'g' => some (Nat.pow base 3)
  | 'T' | 't' => some (Nat.pow base 4)
  | 'P' => some (Nat.pow base 5)
  | 'E' => some (Nat.pow base 6)
  | 'Z' => some (Nat.pow base 7)
  | 'Y' => some (Nat.pow base 8)
  | 'R' => some (Nat.pow base 9)
  | 'Q' => some (Nat.pow base 10)
  | _ => none

/-- Whether a suffix is a power letter, which may take `B` or `iB` after it. -/
def isPowerLetter (c : Char) : Bool :=
  "EGgkKMmPQRTtYZ".toList.contains c

/-- The base of a power letter's powers and how many characters the suffix takes, from the
text after the letter. -/
def powerBase (tails : Bool) (c : Char) (after : List Char) : Nat × Nat :=
  if tails && isPowerLetter c then
    match after with
    | 'i' :: 'B' :: _ => (1024, 3)
    | 'B' :: _ | 'D' :: _ => (1000, 2)
    | _ => (1024, 1)
  else (1024, 1)

/-- Reads a count in a style. A count that cannot be negative is at most `2 ^ 64 - 1`; one that
can lies between `-2 ^ 63` and `2 ^ 63 - 1`. -/
def readCountIn (st : CountStyle) (s : String) : Except CountTrouble Int :=
  let cs := s.toList
  let body := cs.dropWhile isNumberBlank
  if !st.signed && body.head? == some '-' then .error .invalid
  else
    let (negative, unsigned) : Bool × List Char := match body with
      | '+' :: rest => (false, rest)
      | '-' :: rest => (true, rest)
      | rest => (false, rest)
    let (base, digits) := countBase st.anyBase unsigned
    let (number, rest) := leadingNumber base digits
    let top : Nat := if st.signed then (if negative then Nat.pow 2 63 else Nat.pow 2 63 - 1)
      else Nat.pow 2 64 - 1
    let start : Option (Nat × List Char) := match number with
      | some n => some (n, rest)
      | none =>
        match cs with
        | c :: _ => if st.suffixes.contains c then some (1, cs) else none
        | [] => none
    match start with
    | none => .error .invalid
    | some (n, rest) =>
      let signedOf (m : Nat) : Int := if negative then -(m : Int) else m
      match rest with
      | [] => if n > top then .error .tooLarge else .ok (signedOf n)
      | c :: after =>
        if !st.suffixes.contains c then .error .badSuffix
        else
          let (powers, used) := powerBase st.powerTails c after
          match suffixFactor powers c with
          | none => .error .badSuffix
          | some f =>
            if !(rest.drop used).isEmpty then .error .badSuffix
            else if n * f > top then .error .tooLarge
            else .ok (signedOf (n * f))

/-- The message for an option's argument that is no count: it names the option (`-j`) and
quotes the argument plainly. -/
def argumentTrouble (option arg : String) : CountTrouble → String
  | .invalid => "invalid " ++ option ++ " argument \x27" ++ arg ++ "\x27"
  | .badSuffix => "invalid suffix in " ++ option ++ " argument \x27" ++ arg ++ "\x27"
  | .tooLarge => option ++ " argument \x27" ++ arg ++ "\x27 too large"

/-- Reads a count that must lie between `lo` and `hi`; the message names what the count is
for and quotes it. A count too large for its type, or outside the range by more than about a
billion, is a value too large; any other count outside the range is a result out of range. -/
def readCountWithin (st : CountStyle) (lo hi : Int) (what s : String) : Except String Int :=
  let report (why : String) : Except String Int :=
    .error (what ++ ": " ++ quoteName s ++ why)
  match readCountIn st s with
  | .ok n =>
    if lo ≤ n && n ≤ hi then .ok n
    else if n > 1073741823 || n < -1073741824 then report ": Value too large for defined data type"
    else report ": Numerical result out of range"
  | .error .tooLarge => report ": Value too large for defined data type"
  | .error _ => report ""

end Regress.Shell
