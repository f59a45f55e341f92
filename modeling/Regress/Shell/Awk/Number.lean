import Regress.Shell.Printf

/-!
# Numbers of awk

awk computes on doubles. This module connects the machine's doubles (`Float`) with the exact
view of them the formatting code works on (`FloatArg`), and holds the rules for reading a
number out of text and for writing one as text.

* **Reading.** A text is read as the C library reads a double: blanks, a sign, then digits
  with a point and an exponent, a hexadecimal number, `inf`, `infinity` or `nan`; what does
  not read gives 0. A text *looks numeric* when, blanks aside, it starts with a digit, a sign
  or a point, ends with a digit or a point, and reads whole without leaving the range of
  doubles.
* **Writing.** A number that is a whole number from `-2^63` to `2^64` is written with its
  digits (the largest as `2^64 - 1`); any other is written by a `printf` format, `%.6g`
  unless the program says otherwise.
* **Remainder** is that of C's `fmod`: the sign of the dividend, exact, and not a number for
  a divisor of zero.
-/

namespace Regress.Awk

open Regress.Shell

/-- `2 ^ 52`, the hidden bit of a normal double. -/
def hiddenBit : Nat := Nat.pow 2 52

/-- The double with the bits of a `FloatArg`. -/
def floatOfArg : FloatArg → Float
  | .finite b =>
    let sign : Nat := if b.negative then Nat.pow 2 63 else 0
    if b.mantissa == 0 then Float.ofBits (UInt64.ofNat sign)
    else if b.mantissa < hiddenBit then Float.ofBits (UInt64.ofNat (sign + b.mantissa))
    else
      let biased := (b.exponent + 1075).toNat
      Float.ofBits (UInt64.ofNat (sign + biased * hiddenBit + (b.mantissa - hiddenBit)))
  | .infinite negative => Float.ofBits (if negative then 0xfff0000000000000 else 0x7ff0000000000000)
  | .nan negative => Float.ofBits (if negative then 0xfff8000000000000 else 0x7ff8000000000000)

/-- The exact view of a double: a finite value with its sign, mantissa and exponent, an
infinity or not a number. Not a number is taken as negative, as the machine's arithmetic
makes it: the bits of a double do not keep the sign of not a number. -/
def argOfFloat (x : Float) : FloatArg :=
  let bits := x.toBits.toNat
  let negative := bits ≥ Nat.pow 2 63
  let biased := (bits / hiddenBit) % 2048
  let fraction := bits % hiddenBit
  if biased == 2047 then (if fraction == 0 then .infinite negative else .nan true)
  else if biased == 0 then .finite ⟨negative, fraction, Binary64.minExponent⟩
  else .finite ⟨negative, fraction + hiddenBit, (biased : Int) - 1075⟩

/-- Not a number, with the sign the machine's arithmetic gives it. -/
def machineNaN : Float := floatOfArg (.nan true)

/-- The whole number a double is, if it is one. -/
def wholeValue? (x : Float) : Option Int :=
  match argOfFloat x with
  | .finite b =>
    let magnitude : Option Nat :=
      if b.exponent ≥ 0 then some (b.mantissa * Nat.pow 2 b.exponent.toNat)
      else
        let d := Nat.pow 2 b.exponent.natAbs
        if b.mantissa % d == 0 then some (b.mantissa / d) else none
    magnitude.map fun m => if b.negative then -(m : Int) else m
  | _ => none

/-- The double nearest to a whole number. -/
def floatOfInt (i : Int) : Float :=
  floatOfArg (.finite (Binary64.ofInt i))

/-- The double a text starts with, as the C library reads it: the value, the rest, and
whether it left the range of doubles; `none` when no number starts the text. -/
def scanNumber (cs : List Char) : Option (Float × List Char × Bool) :=
  (scanFloat cs).map fun (v, rest, range) => (floatOfArg v, rest, range)

/-- The number a text reads as: the number it starts with, or 0. -/
def numberOfText (s : String) : Float :=
  match scanNumber s.toList with
  | some (x, _, _) => x
  | none => 0

/-- The blanks around a number that looks numeric. -/
def isNumberBlank (c : Char) : Bool :=
  c == ' ' || c == '\t' || c == '\r' || c == '\x0c' || c == '\x0b'

/-- The number a text stands for when it looks numeric: blanks aside, it starts with a digit,
a sign or a point, ends with a digit or a point, and reads whole within the range of
doubles. -/
def looksNumeric (s : String) : Option Float :=
  let cs := ((s.toList.dropWhile isNumberBlank).reverse.dropWhile isNumberBlank).reverse
  match cs.head?, cs.getLast? with
  | some first, some last =>
    if (first.isDigit || first == '+' || first == '-' || first == '.') && (last.isDigit || last == '.') then
      match scanNumber cs with
      | some (x, [], false) => some x
      | _ => none
    else none
  | _, _ => none

/-- The remainder of C's `fmod`: `a - n * b` for the whole number `n` nearest to `a / b`
toward zero, computed exactly; not a number when `b` is zero or `a` is infinite. -/
def floatMod (a b : Float) : Float :=
  match argOfFloat a, argOfFloat b with
  | .nan _, _ => a
  | _, .nan _ => b
  | .infinite _, _ => machineNaN
  | .finite _, .infinite _ => a
  | .finite x, .finite y =>
    if y.mantissa == 0 then machineNaN
    else if x.mantissa == 0 then a
    else
      let e := min x.exponent y.exponent
      let scaled (m : Nat) (ex : Int) : Nat := m * Nat.pow 2 (ex - e).toNat
      let r := scaled x.mantissa x.exponent % scaled y.mantissa y.exponent
      let value : Option Binary64 :=
        if e ≥ 0 then Binary64.ofRatio x.negative (r * Nat.pow 2 e.toNat) 1
        else Binary64.ofRatio x.negative r (Nat.pow 2 e.natAbs)
      match value with
      | some v => floatOfArg (.finite v)
      | none => a

/-- A double truncated toward zero to a whole number. -/
def truncate (x : Float) : Float :=
  if x.isNaN || x.isInf then x
  else if x < 0 then Float.ceil x else Float.floor x

/-- The digits awk writes for a number that is a whole number its 32-bit conversion keeps:
from `-(2^31 - 1)` to `2^31 - 1`. -/
def wholeText? (x : Float) : Option String :=
  match wholeValue? x with
  | some i => if i.natAbs ≤ 2147483647 then some (toString i) else none
  | none => none

end Regress.Awk
