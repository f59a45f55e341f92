import Regress.Shell.Awk.Number

/-!
# The formats of `printf`

`printf`, `sprintf` and the conversion of numbers to text by `CONVFMT` and `OFMT` share one
engine. A format is copied to the output except for its conversions, each of which writes the
next argument.

* A conversion is `%`, flags among `-+ #0`, a width, a precision after a point, and one of
  `c d i o x X u e E f g G s`; `d i o x X u` may have `l`, `ll`, `h` or `hh` before them. A
  width or precision of `*` takes the next argument; a negative width pads on the right and a
  negative precision counts as none. `%%` writes `%`.
* `%c` writes the character whose code a number has, clamped as by `%d` and then modulo 256, or the first character of a
  text (the zero character for the empty text). `%s` writes the text of the argument.
* The integer conversions read a double as awk's whole numbers of 32 bits: `%i` and `%d` clamp
  to `±(2^31 - 1)`, the unsigned ones to `0` and `2^32 - 1`; not a number reads as the low end.
* A conversion with no argument left, or one that is not a conversion, stops the output:
  what was written before it stays, and the fault names which conversion it was.
-/

namespace Regress.Awk

open Regress.Shell

/-- An argument of a format as the conversions see it: its number, its text, and whether it
is numeric (a number, or input that looks like one), which `%c` writes as a code. -/
structure FormatArg where
  number : Float
  text : String
  numeric : Bool
  deriving Inhabited

/-- Why a format stopped: an argument was missing, or the `n`-th conversion is not one. -/
inductive FormatFault where
  | missing
  | improper (n : Nat)
  deriving Repr, DecidableEq, Inhabited

/-- The whole number a double truncates to, when it is finite. -/
def truncatedInt (x : Float) : Option Int :=
  wholeValue? (truncate x)

/-- The largest value of the machine's `int`, `2^31 - 1`: awk's conversions of a double to
a whole number clamp to it and to its negation. -/
def intLimit : Int := 2147483647

/-- The largest value of the machine's `unsigned int`, `2^32 - 1`. -/
def unsignedLimit : Nat := 4294967295

/-- A double as awk's whole number: truncated toward zero and clamped to `±(2^31 - 1)`; not a
number reads as the negative end. -/
def clampedInt (x : Float) : Int :=
  if x ≥ floatOfInt intLimit then intLimit
  else if x > floatOfInt (-intLimit) then (truncatedInt x).getD (-intLimit)
  else -intLimit

/-- A double as awk's unsigned whole number: truncated toward zero and clamped to
`[0, 2^32 - 1]`; not a number reads as 0. -/
def clampedUnsigned (x : Float) : Nat :=
  if x ≥ floatOfInt (unsignedLimit : Int) then unsignedLimit
  else if x > 0 then ((truncatedInt x).getD 0).toNat
  else 0

/-- A double as a 32-bit count, for a width or precision taken from an argument. -/
def clampedCount (x : Float) : Int :=
  clampedInt x

/-- Whether a character is a flag of a conversion. -/
def isFormatFlag (c : Char) : Bool :=
  c == '-' || c == '+' || c == ' ' || c == '#' || c == '0'

/-- Writes one argument by a conversion. -/
def formatOne (d : Directive) (arg : FormatArg) : String :=
  match d.conv with
  | 'd' | 'i' =>
    let i := clampedInt arg.number
    formatInteger d (i < 0) i.natAbs
  | 'o' | 'x' | 'X' | 'u' => formatInteger d false (clampedUnsigned arg.number)
  | 'c' =>
    let s :=
      if arg.numeric then String.singleton (Char.ofNat ((clampedInt arg.number) % 256).toNat)
      else match arg.text.toList with
        | c :: _ => String.singleton c
        | [] => String.singleton (Char.ofNat 0)
    formatText d s
  | 's' => formatText d arg.text
  | _ => formatFloat d (argOfFloat arg.number)

/-- Reads a width or precision: digits, or `*` taking the next argument. The value (`none`
when absent, negative from an argument), the rest of the format, the arguments left, and
whether an argument was missing. -/
def readCount (cs : List Char) (args : List FormatArg) :
    Option Int × List Char × List FormatArg × Bool :=
  match cs with
  | '*' :: rest =>
    match args with
    | a :: more => (some (clampedCount a.number), rest, more, false)
    | [] => (none, rest, [], true)
  | _ =>
    let ds := cs.takeWhile Char.isDigit
    if ds.isEmpty then (none, cs, args, false)
    else (some (String.ofList ds).toNat!, cs.drop ds.length, args, false)

/-- Drops the length modifiers before an integer conversion: whether there were any and the
rest. -/
def dropLengthModifier (cs : List Char) : Bool × List Char :=
  match cs with
  | 'l' :: 'l' :: rest => (true, rest)
  | 'h' :: 'h' :: rest => (true, rest)
  | 'l' :: rest => (true, rest)
  | 'h' :: rest => (true, rest)
  | _ => (false, cs)

/-- Writes a format from a position: the text so far, the conversions counted so far, and the
fault that stopped it, if one did. -/
def formatFrom : Nat → List Char → List FormatArg → Nat → String → String × Option FormatFault
  | 0, _, _, _, out => (out, none)
  | _ + 1, [], _, _, out => (out, none)
  | fuel + 1, c :: rest, args, count, out =>
    if c != '%' then formatFrom fuel rest args count (out.push c)
    else
      match rest with
      | '%' :: more => formatFrom fuel more args count (out.push '%')
      | _ =>
        let count := count + 1
        if args.isEmpty then (out, some .missing)
        else
          let flags := rest.takeWhile isFormatFlag
          let rest := rest.drop flags.length
          let (width, rest, args, short1) := readCount rest args
          let (precision, rest, args, short2) := match rest with
            | '.' :: more =>
              let (p, after, left, short) := readCount more args
              (some (p.getD 0), after, left, short)
            | _ => (none, rest, args, false)
          if short1 || short2 then (out, some .missing)
          else
            let (modified, rest) := dropLengthModifier rest
            let flags := match width with
              | some w => if w < 0 then flags ++ ['-'] else flags
              | none => flags
            let precision := match precision with
              | some p => if p < 0 then none else some p.toNat
              | none => none
            match rest, args with
            | conv :: more, arg :: left =>
              let valid := if modified then "dioxXu".contains conv else "cdioxXueEfgGs".contains conv
              if !valid then (out, some (.improper count))
              else
                let d : Directive := { flags, width := width.map Int.natAbs, precision, conv }
                formatFrom fuel more left count (out ++ formatOne d arg)
            | [], _ => (out, some (.improper count))
            | _, [] => (out, some .missing)

/-- Writes a format with its arguments: the text, and the fault that stopped it early. -/
def formatWith (format : String) (args : List FormatArg) : String × Option FormatFault :=
  formatFrom (format.length + 1) format.toList args 0 ""

/-- The text of a number by a format such as `CONVFMT`: the digits of a whole number in the
range written as one, else the format applied to it. -/
def numberText (format : String) (x : Float) : String :=
  match wholeText? x with
  | some t => t
  | none => (formatWith format [{ number := x, text := "", numeric := true }]).1

end Regress.Awk
