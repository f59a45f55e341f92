/-!
# Doubles as exact numbers

A `Binary64` is a finite IEEE 754 double, kept as its sign, its integer mantissa and its binary
exponent: the value is `mantissa * 2 ^ exponent`. Everything here is exact `Nat` arithmetic on
those fields; no floating-point operation is involved.

* `Binary64.ofRatio` rounds a positive fraction to the nearest double, a tie going to the even
  mantissa, and refuses a value that rounds past the largest double. `Binary64.ofDecimal` reads
  `digits * 10 ^ exponent` through it.
* `Binary64.shortest` gives the fewest significant decimal digits that read back as the same
  double, the nearest to it when several do.
* `Decimal.render` writes such digits in positional or scientific notation, as a `FloatStyle`
  says.

The digits come from the interval of reals that round to the double: for `k = 1, 2, ...` the
two neighbours of the value on the grid of `k` significant digits are tried, and the first
grid with a neighbour inside the interval gives the answer.
-/

namespace Regress

/-- A finite double: `(-1) ^ negative * mantissa * 2 ^ exponent`. A normal double has a
mantissa from `2 ^ 52` to below `2 ^ 53`; a subnormal one, or zero, has a smaller mantissa and
the exponent `-1074`. -/
structure Binary64 where
  negative : Bool
  mantissa : Nat
  exponent : Int
  deriving Repr, DecidableEq, Inhabited

namespace Binary64

/-- The least mantissa of a normal double. -/
def hiddenBit : Nat := Nat.pow 2 52

/-- The exponent of the subnormal doubles. -/
def minExponent : Int := -1074

/-- The greatest exponent of a finite double. -/
def maxExponent : Int := 971

/-- Zero with a sign. -/
def zero (negative : Bool) : Binary64 :=
  ⟨negative, 0, minExponent⟩

/-- Whether a double is zero. -/
def isZero (b : Binary64) : Bool :=
  b.mantissa == 0

/-- The double nearest to `n / d` (with `d > 0`), a tie going to the even mantissa, or `none`
when it rounds past the largest double. -/
def ofRatio (negative : Bool) (n d : Nat) : Option Binary64 :=
  if n == 0 || d == 0 then some (zero negative)
  else
    let quotient (e : Int) : Nat :=
      if e ≥ 0 then n / (d * Nat.pow 2 e.toNat) else n * Nat.pow 2 e.natAbs / d
    -- `n / d` lies between `2 ^ (log n - log d - 1)` and `2 ^ (log n - log d + 1)`, so the
    -- quotient at `e0` lies between `2 ^ 51` and `2 ^ 53`.
    let e0 : Int := (Nat.log2 n : Int) - (Nat.log2 d : Int) - 52
    let e := if quotient e0 < hiddenBit then e0 - 1 else e0
    let e := max e minExponent
    let (num, den) :=
      if e ≥ 0 then (n, d * Nat.pow 2 e.toNat) else (n * Nat.pow 2 e.natAbs, d)
    let q := num / den
    let r := num % den
    let q := if 2 * r > den || (2 * r == den && q % 2 == 1) then q + 1 else q
    let (q, e) := if q == 2 * hiddenBit then (hiddenBit, e + 1) else (q, e)
    if e > maxExponent then none else some ⟨negative, q, e⟩

/-- Compares the magnitudes of two doubles. -/
def compareMagnitude (a b : Binary64) : Ordering :=
  let e := min a.exponent b.exponent
  compare (a.mantissa * Nat.pow 2 (a.exponent - e).toNat) (b.mantissa * Nat.pow 2 (b.exponent - e).toNat)

/-- Compares two doubles by value; the two zeros are equal. -/
def compareValue (a b : Binary64) : Ordering :=
  let sign (x : Binary64) : Int := if x.isZero then 0 else if x.negative then -1 else 1
  if sign a != sign b then compare (sign a) (sign b)
  else if sign a == 0 then .eq
  else if sign a > 0 then compareMagnitude a b
  else compareMagnitude b a

/-- The number of decimal digits of a number; zero has none. -/
def decimalLength (n : Nat) : Nat :=
  if n == 0 then 0 else (Nat.toDigits 10 n).length

/-- The double nearest to `digits * 10 ^ exponent`, or `none` when it rounds past the largest
double. A value below `10 ^ -330` is zero without computing it, and one of `10 ^ 310` or more
overflows. -/
def ofDecimal (negative : Bool) (digits : Nat) (exponent : Int) : Option Binary64 :=
  if digits == 0 then some (zero negative)
  else
    let magnitude := (decimalLength digits : Int) + exponent
    if magnitude < -330 then some (zero negative)
    else if magnitude > 310 then none
    else if exponent ≥ 0 then ofRatio negative (digits * Nat.pow 10 exponent.toNat) 1
    else ofRatio negative digits (Nat.pow 10 exponent.natAbs)

/-- The double nearest to an integer. -/
def ofInt (i : Int) : Binary64 :=
  (ofDecimal (i < 0) i.natAbs 0).getD (zero (i < 0))

/-- Compares `x * 2 ^ e2` with `c * 10 ^ p`. -/
def compareScaled (x : Nat) (e2 : Int) (c : Nat) (p : Int) : Ordering :=
  let lhs := x * Nat.pow 2 (max e2 0).toNat * Nat.pow 10 (max (-p) 0).toNat
  let rhs := c * Nat.pow 10 (max p 0).toNat * Nat.pow 2 (max (-e2) 0).toNat
  compare lhs rhs

/-- `floor (x * 2 ^ e2 / 10 ^ p)`. -/
def floorScaled (x : Nat) (e2 : Int) (p : Int) : Nat :=
  x * Nat.pow 2 (max e2 0).toNat * Nat.pow 10 (max (-p) 0).toNat /
    (Nat.pow 10 (max p 0).toNat * Nat.pow 2 (max (-e2) 0).toNat)

/-- Whether a double is at least `10 ^ e`. -/
def atLeastPow10 (b : Binary64) (e : Int) : Bool :=
  compareScaled b.mantissa b.exponent 1 e != .lt

/-- Raises `e` while the double is at least `10 ^ (e + 1)`. -/
def raiseExponent (b : Binary64) : Nat → Int → Int
  | 0, e => e
  | fuel + 1, e => if b.atLeastPow10 (e + 1) then raiseExponent b fuel (e + 1) else e

/-- The decimal exponent of a positive double: the `E` with `10 ^ E ≤ value < 10 ^ (E + 1)`.
The estimate from the binary exponent is within one of it, so the search starts two below. -/
def decimalExponent (b : Binary64) : Int :=
  let bits : Int := (Nat.log2 b.mantissa : Int) + b.exponent
  let guess : Int := bits * 30103 / 100000
  b.raiseExponent 6 (guess - 2)

/-- Whether `c * 10 ^ p` lies in the interval of reals that round to the double: in units of
`2 ^ (exponent - 2)` the double is `4 * mantissa`, the interval reaches two units above it and
two below it (one below a power of two, where the double below is closer), and it holds its
ends when the mantissa is even. -/
def roundsTo (b : Binary64) (c : Nat) (p : Int) : Bool :=
  let m := b.mantissa
  let e2 := b.exponent - 2
  let below := if m == hiddenBit && b.exponent > minExponent then 1 else 2
  let low := compareScaled (4 * m - below) e2 c p
  let high := compareScaled (4 * m + 2) e2 c p
  if m % 2 == 0 then low != .gt && high != .lt
  else low == .lt && high == .gt

/-- The first grid, from `k` significant digits on, with a neighbour of the double inside its
rounding interval: the neighbour as digits and the exponent of their last place. Of two
neighbours inside, the nearer wins, and the even one on a tie. -/
def searchDigits (b : Binary64) (top : Int) : Nat → Nat → Nat × Int
  | 0, _ => (floorScaled b.mantissa b.exponent (top - 16), top - 16)
  | fuel + 1, k =>
    let p := top - (k : Int) + 1
    let c := floorScaled b.mantissa b.exponent p
    let lowIn := roundsTo b c p
    let highIn := roundsTo b (c + 1) p
    if lowIn && highIn then
      -- compare `value - c * 10 ^ p` with `(c + 1) * 10 ^ p - value`, in doubled form
      match compareScaled (2 * b.mantissa) b.exponent (2 * c + 1) p with
      | .lt => (c, p)
      | .gt => (c + 1, p)
      | .eq => if c % 2 == 0 then (c, p) else (c + 1, p)
    else if lowIn then (c, p)
    else if highIn then (c + 1, p)
    else searchDigits b top fuel (k + 1)

/-- Removes the zeros at the end of `c`, raising the exponent `p` by one for each. -/
def dropZeros : Nat → Nat → Int → Nat × Int
  | 0, c, p => (c, p)
  | fuel + 1, c, p => if c != 0 && c % 10 == 0 then dropZeros fuel (c / 10) (p + 1) else (c, p)

end Binary64

/-- A decimal number: a sign, significant digits without zeros at the end, and the position of
the decimal point counted from the left of the digits. Zero has no digits. -/
structure Decimal where
  negative : Bool
  digits : String
  point : Int
  deriving Repr, DecidableEq, Inhabited

/-- The fewest significant digits that read back as the double, the nearest to it when several
do. -/
def Binary64.shortest (b : Binary64) : Decimal :=
  if b.isZero then ⟨b.negative, "", 1⟩
  else
    let top := b.decimalExponent
    let (c, p) := b.searchDigits top 17 1
    let (c, p) := Binary64.dropZeros 20 c p
    let ds := toString c
    ⟨b.negative, ds, (ds.length : Int) + p⟩

/-- How a float is written: positionally when the exponent of its first digit is at least
`lowExponent` and below `highExponent`, else as digits with one before the point, `e`, a sign
and at least `exponentDigits` digits of exponent. -/
structure FloatStyle where
  lowExponent : Int
  highExponent : Int
  exponentDigits : Nat
  deriving Repr, DecidableEq, Inhabited

namespace Decimal

/-- `n` zeros. -/
def zeros (n : Nat) : String :=
  String.ofList (List.replicate n '0')

/-- The number in a style. -/
def render (d : Decimal) (style : FloatStyle) : String :=
  let sign := if d.negative then "-" else ""
  if d.digits.isEmpty then sign ++ "0"
  else
    let n := d.digits.length
    let exp := d.point - 1
    if style.lowExponent ≤ exp && exp < style.highExponent then
      if d.point ≤ 0 then sign ++ "0." ++ zeros d.point.natAbs ++ d.digits
      else if d.point.toNat ≥ n then sign ++ d.digits ++ zeros (d.point.toNat - n)
      else
        sign ++ String.ofList (d.digits.toList.take d.point.toNat) ++ "." ++
          String.ofList (d.digits.toList.drop d.point.toNat)
    else
      let first := String.ofList (d.digits.toList.take 1)
      let rest := String.ofList (d.digits.toList.drop 1)
      let mag := toString exp.natAbs
      sign ++ first ++ (if rest.isEmpty then "" else "." ++ rest) ++ "e" ++
        (if exp < 0 then "-" else "+") ++ zeros (style.exponentDigits - mag.length) ++ mag

end Decimal

end Regress
