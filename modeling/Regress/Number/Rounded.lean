import Regress.Number.Binary64

/-!
# Doubles rounded to a number of places

The digits of a double written with a fixed number of decimals, or with a fixed number of
significant digits and an exponent, or in hexadecimal. The double's exact value is rounded, a
tie going to the even last digit, so the digits are those of the correctly rounded result.

* `Binary64.fixed b n` gives the digits before the point and the `n` after it.
* `Binary64.scientific b n` gives one digit, `n` after the point and the decimal exponent; a
  rounding that carries into a new digit moves the exponent up.
* `Binary64.hexParts b n` gives the leading hexadecimal digit, the fraction digits (all of
  them, without zeros at the end, when `n` is `none`) and the binary exponent;
  `Binary64.wideHexParts b n` gives them as for a 64-bit mantissa.
-/

namespace Regress

namespace Binary64

/-- `x / d` rounded to the nearest whole number, a tie going to the even one. -/
def roundDiv (x d : Nat) : Nat :=
  let q := x / d
  let r := x % d
  if 2 * r > d || (2 * r == d && q % 2 == 1) then q + 1 else q

/-- The magnitude of a double times `10 ^ places`, rounded to a whole number. -/
def scaledRound (b : Binary64) (places : Int) : Nat :=
  let num := b.mantissa * Nat.pow 2 (max b.exponent 0).toNat * Nat.pow 10 (max places 0).toNat
  let den := Nat.pow 2 (max (-b.exponent) 0).toNat * Nat.pow 10 (max (-places) 0).toNat
  roundDiv num den

/-- A number's decimal digits, with zeros in front to make at least `width` of them. -/
def paddedDigits (n width : Nat) : String :=
  let s := toString n
  String.ofList (List.replicate (width - s.length) '0') ++ s

/-- The magnitude with `places` decimals: the digits before the point and those after it. -/
def fixed (b : Binary64) (places : Nat) : String × String :=
  let n := b.scaledRound places
  let s := paddedDigits n (places + 1)
  (String.ofList (s.toList.take (s.length - places)), String.ofList (s.toList.drop (s.length - places)))

/-- The magnitude with one digit before the point and `places` after it: the digits and the
decimal exponent. Zero has the exponent 0. -/
def scientific (b : Binary64) (places : Nat) : String × Int :=
  if b.isZero then (String.ofList (List.replicate (places + 1) '0'), 0)
  else
    let x := b.decimalExponent
    let n := b.scaledRound ((places : Int) - x)
    if n ≥ Nat.pow 10 (places + 1) then
      (toString (b.scaledRound ((places : Int) - x - 1)), x + 1)
    else (paddedDigits n (places + 1), x)

/-- The hexadecimal digits of a number, at least `width` of them. -/
def hexDigits (n width : Nat) : String :=
  let ds := Nat.toDigits 16 n
  String.ofList (List.replicate (width - ds.length) '0' ++ ds)

/-- The magnitude in hexadecimal: the digit before the point, the digits after it and the
binary exponent. Without a precision the fraction has all its digits but the zeros at the
end; with one it is rounded to that many. -/
def hexParts (b : Binary64) (precision : Option Nat) : Nat × String × Int :=
  if b.isZero then
    (0, String.ofList (List.replicate (precision.getD 0) '0'), 0)
  else
    let normal := b.mantissa ≥ hiddenBit
    let lead := if normal then 1 else 0
    let frac := if normal then b.mantissa - hiddenBit else b.mantissa
    let exp : Int := if normal then b.exponent + 52 else -1022
    match precision with
    | none =>
      let ds := (hexDigits frac 13).toList
      let ds := (ds.reverse.dropWhile (· == '0')).reverse
      (lead, String.ofList ds, exp)
    | some p =>
      if p ≥ 13 then (lead, hexDigits frac 13 ++ String.ofList (List.replicate (p - 13) '0'), exp)
      else
        let whole := lead * Nat.pow 16 13 + frac
        let rounded := roundDiv whole (Nat.pow 16 (13 - p))
        let scale := Nat.pow 16 p
        (rounded / scale, if p == 0 then "" else hexDigits (rounded % scale) p, exp)

/-- The magnitude in hexadecimal as an extended double of 64 mantissa bits writes it: the digit
before the point holds the top four bits (from 8 up for a number that is not zero), the 15
digits after it the other 60, and the binary exponent belongs to that first digit. A double
is exactly such a number, so only the layout differs from `hexParts`. -/
def wideHexParts (b : Binary64) (precision : Option Nat) : Nat × String × Int :=
  if b.isZero then
    (0, String.ofList (List.replicate (precision.getD 0) '0'), 0)
  else
    let bits := (Nat.toDigits 2 b.mantissa).length
    let m := b.mantissa * Nat.pow 2 (64 - bits)
    let exp : Int := b.exponent - ((64 - bits : Nat) : Int) + 60
    let lead := m / Nat.pow 2 60
    let frac := m % Nat.pow 2 60
    match precision with
    | none =>
      let ds := (hexDigits frac 15).toList
      (lead, String.ofList (ds.reverse.dropWhile (· == '0')).reverse, exp)
    | some p =>
      if p ≥ 15 then (lead, hexDigits frac 15 ++ String.ofList (List.replicate (p - 15) '0'), exp)
      else
        let rounded := roundDiv m (Nat.pow 16 (15 - p))
        let scale := Nat.pow 16 p
        (rounded / scale, if p == 0 then "" else hexDigits (rounded % scale) p, exp)

end Binary64

end Regress
