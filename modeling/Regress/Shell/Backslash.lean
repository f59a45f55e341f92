/-!
# Backslash escapes of bash

Bash reads backslash escapes in three places, each a little differently: in the format of
`printf`, in an argument of its `%b`, and in an argument of `echo -e`.

* Everywhere, `\a \b \e \E \f \n \r \t \v` and `\\` stand for the usual characters, `\x` takes
  up to two hexadecimal digits and `\u`, `\U` up to four and eight. A character beyond ASCII
  has no octets in the C locale and is written as its escape, `\uXXXX` or `\UXXXXXXXX`.
* Octal digits: in a format a digit and up to two more; in `%b` the same, or after `\0` up to
  three more; `echo -e` knows only `\0` with up to three more and leaves `\1` to `\7` alone.
* `\'`, `\"` and `\?` stand for the character in a format; elsewhere the backslash stays.
* `\c` ends all output in `%b` and in `echo -e`; in a format it is no escape.
* `\x`, `\u` or `\U` without a digit is no escape; `printf` complains about it.
* Anything else after a backslash is no escape: the backslash stays and the character after it
  is read as it is.
-/

namespace Regress.Shell

/-- The value of a hexadecimal digit. -/
def digitValue? (c : Char) : Option Nat :=
  if c.isDigit then some (c.toNat - 48)
  else if 'a' ≤ c && c ≤ 'f' then some (c.toNat - 87)
  else if 'A' ≤ c && c ≤ 'F' then some (c.toNat - 55)
  else none

/-- Up to `n` digits of a base at the start of the characters: their value and count. -/
def leadingDigits (base n : Nat) (cs : List Char) : Nat × Nat :=
  let digits := (cs.take n).takeWhile fun c => (digitValue? c).any (· < base)
  (digits.foldl (fun v c => v * base + (digitValue? c).getD 0) 0, digits.length)

/-- How a character beyond ASCII is written in the C locale, where it has no octets of its
own: `\uXXXX`, or `\UXXXXXXXX` beyond the first plane, in upper-case hexadecimal. -/
def universalEscape (v : Nat) : String :=
  let digits (width : Nat) : String :=
    let ds := (Nat.toDigits 16 v).map Char.toUpper
    String.ofList (List.replicate (width - ds.length) '0' ++ ds)
  if v < 0x10000 then "\\u" ++ digits 4 else "\\U" ++ digits 8

/-- Where bash reads an escape: in a format of `printf`, in an argument of `%b`, or in an
argument of `echo -e`. -/
inductive EscapeSite where
  | format
  | argument
  | echo
  deriving DecidableEq, Inhabited

/-- What an escape was read as: the text it stands for, the characters after it, whether it
ends all output, and what `printf` says about it, if anything. -/
structure EscapeRead where
  text : String
  rest : List Char
  stop : Bool := false
  complaint : Option String := none
  deriving Inhabited

/-- The character of a simple escape letter, the same in every place. -/
def simpleEscape (c : Char) : Option Char :=
  match c with
  | 'a' => some '\x07'
  | 'b' => some '\x08'
  | 'e' | 'E' => some '\x1b'
  | 'f' => some '\x0c'
  | 'n' => some '\n'
  | 'r' => some '\r'
  | 't' => some '\t'
  | 'v' => some '\x0b'
  | '\\' => some '\\'
  | _ => none

/-- Reads the escape after a backslash, from the characters after it, in a place. -/
def readEscape (site : EscapeSite) (cs : List Char) : EscapeRead :=
  -- no escape: the backslash stays and what follows is read as it is
  let plain : EscapeRead := { text := "\\", rest := cs }
  match cs with
  | [] => plain
  | c :: rest =>
    match simpleEscape c with
    | some d => { text := String.singleton d, rest }
    | none =>
      if '0' ≤ c && c ≤ '7' then
        if site == .echo && c != '0' then plain
        else
          let more := if site != .format && c == '0' then 3 else 2
          let (v, n) := leadingDigits 8 more rest
          let value := (c.toNat - 48) * Nat.pow 8 n + v
          { text := String.singleton (Char.ofNat (value % 256)), rest := rest.drop n }
      else if c == 'x' || c == 'u' || c == 'U' then
        let (v, n) := leadingDigits 16 (if c == 'x' then 2 else if c == 'u' then 4 else 8) rest
        if n == 0 then
          if site == .echo then plain
          else
            let what := if c == 'x' then "missing hex digit for \\x"
              else "missing unicode digit for \\" ++ String.singleton c
            { plain with complaint := some what }
        else if c == 'x' then { text := String.singleton (Char.ofNat (v % 256)), rest := rest.drop n }
        else if v ≤ 0x7F then { text := String.singleton (Char.ofNat v), rest := rest.drop n }
        else { text := universalEscape v, rest := rest.drop n }
      else if c == '\'' || c == '"' || c == '?' then
        if site == .format then { text := String.singleton c, rest } else plain
      else if c == 'c' && site != .format then { text := "", rest, stop := true }
      else plain

/-- A text with the escapes of a place done: the text, whether `\c` ended it, and the
complaints about its escapes. -/
def bashEscapes (site : EscapeSite) : Nat → List Char → String × Bool × List String
  | 0, cs => (String.ofList cs, false, [])
  | _ + 1, [] => ("", false, [])
  | fuel + 1, '\\' :: rest =>
    let e := readEscape site rest
    if e.stop then (e.text, true, e.complaint.toList)
    else
      let (t, stop, notes) := bashEscapes site fuel e.rest
      (e.text ++ t, stop, e.complaint.toList ++ notes)
  | fuel + 1, c :: rest =>
    let (t, stop, notes) := bashEscapes site fuel rest
    (String.singleton c ++ t, stop, notes)

end Regress.Shell
