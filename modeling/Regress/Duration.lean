import Regress.Text.Utf8
/-!
# Durations

A duration is a signed count of nanoseconds that fits in 64 bits. Its text is a sequence of
decimal numbers, each with an optional fraction and a unit (`ns`, `us` or `µs`, `ms`, `s`, `m`,
`h`), after an optional sign, as in `1h2m0.5s`; a lone `0` is zero. `Duration.parse` reads that
text and refuses one whose value leaves the 64-bit range. `Duration.render` writes the shortest
such text of hours, minutes and seconds with a fraction, or for less than a second a single
amount in `ns`, `µs` or `ms` (`1h2m0s`, `1.5s`, `500ms`, `0s`).

A fraction of a unit is turned into nanoseconds in double-precision arithmetic and rounded
down: the fraction's digits as an integer times the unit divided by the fraction's power of
ten, each step rounded to the nearest double. The power of ten is itself a double, multiplied
by ten once for each digit, so that past `10^22` it carries the rounding of every step.
-/

namespace Regress

/-- A span of time in nanoseconds. -/
structure Duration where
  nanos : Int
  deriving Repr, DecidableEq, Inhabited

namespace Duration

/-- Nanoseconds per second. -/
def second : Nat := 1000000000

/-- The bound of the 64-bit range: magnitudes up to it may be read, and a positive duration
must stay below it. -/
def limit : Nat := Nat.pow 2 63

/-- Why a text is not a duration. -/
inductive ParseError where
  | invalid
  | missingUnit
  | unknownUnit (unit : String)
  deriving Repr, DecidableEq

/-- The nanoseconds in one of each unit. -/
def unitNanos : String → Option Nat
  | "ns" => some 1
  | "us" => some 1000
  | "µs" => some 1000
  | "μs" => some 1000
  | "ms" => some 1000000
  | "s" => some second
  | "m" => some (60 * second)
  | "h" => some (3600 * second)
  | _ => none

/-- Reads leading decimal digits: the value, or `none` once it passes `limit`, and the rest. -/
def leadingInt : List Char → Nat → Option (Nat × List Char)
  | c :: rest, x =>
    if c.isDigit then
      if x > limit / 10 then none
      else
        let y := x * 10 + (c.toNat - '0'.toNat)
        if y > limit then none else leadingInt rest y
    else some (x, c :: rest)
  | [], x => some (x, [])

/-- Reads the digits of a fraction: their value and the power of ten they are scaled by, a double
multiplied by ten for each digit taken. Digits that would take the value past the 64-bit range
are skipped. -/
def leadingFraction : List Char → Nat → Float → Bool → Nat × Float × List Char
  | c :: rest, x, scale, full =>
    if c.isDigit then
      if full then leadingFraction rest x scale full
      else if x > (limit - 1) / 10 then leadingFraction rest x scale true
      else
        let y := x * 10 + (c.toNat - '0'.toNat)
        if y > limit then leadingFraction rest x scale true
        else leadingFraction rest y (scale * 10) false
    else (x, scale, c :: rest)
  | [], x, scale, _ => (x, scale, [])

/-- The nanoseconds of the fraction `f / scale` of a unit, computed in double precision and
rounded down. -/
def fractionNanos (f : Nat) (scale : Float) (unit : Nat) : Nat :=
  (Float.ofNat f * (Float.ofNat unit / scale)).toUInt64.toNat

/-- Whether a character may start or continue a number. -/
def numeric (c : Char) : Bool :=
  c = '.' || c.isDigit

/-- Reads the terms of a duration after its sign onto the magnitude `d`. Every term consumes
at least one character, which bounds the recursion by the text's length. -/
def terms : Nat → List Char → Nat → Except ParseError Nat
  | 0, _, d => .ok d
  | _, [], d => .ok d
  | fuel + 1, s, d =>
    if !(s.head?.map numeric).getD false then .error .invalid
    else
      match leadingInt s 0 with
      | none => .error .invalid
      | some (v, s1) =>
        let pre := s1.length != s.length
        let (f, scale, s2, post) :=
          match s1 with
          | '.' :: r =>
            let (f, scale, r') := leadingFraction r 0 1 false
            (f, scale, r', r'.length != r.length)
          | _ => (0, 1.0, s1, false)
        if !pre && !post then .error .invalid
        else
          let u := s2.takeWhile (!numeric ·)
          let s3 := s2.dropWhile (!numeric ·)
          if u.isEmpty then .error .missingUnit
          else
            match unitNanos (String.ofList u) with
            | none => .error (.unknownUnit (String.ofList u))
            | some unit =>
              if v > limit / unit then .error .invalid
              else
                let v := v * unit
                let v := if f > 0 then v + fractionNanos f scale unit else v
                if v > limit then .error .invalid
                else
                  let d := d + v
                  if d > limit then .error .invalid else terms fuel s3 d

/-- Reads a duration's text. -/
def parseText (s : String) : Except ParseError Duration :=
  let cs := s.toList
  let (neg, body) :=
    match cs with
    | '-' :: r => (true, r)
    | '+' :: r => (false, r)
    | r => (false, r)
  if body = ['0'] then .ok ⟨0⟩
  else if body.isEmpty then .error .invalid
  else
    match terms body.length body 0 with
    | .error e => .error e
    | .ok d =>
      if neg then .ok ⟨-(d : Int)⟩
      else if d > limit - 1 then .error .invalid
      else .ok ⟨d⟩

/-- Two lowercase hexadecimal digits of an octet. -/
def hexOctet (b : UInt8) : String :=
  let digit (n : Nat) : Char := "0123456789abcdef".toList.getD n '0'
  String.ofList ['\\', 'x', digit (b.toNat / 16), digit (b.toNat % 16)]

/-- A text between double quotes as error messages about durations show it: a quote and a
backslash get a backslash, and a control or non-ASCII character is written as the `\x` escapes
of its octets. -/
def quote (s : String) : String :=
  "\"" ++ String.join (s.toList.map fun c =>
    if c.toNat ≥ 0x80 || c.toNat < 0x20 then
      String.join ((Utf8.ofChar c).map hexOctet)
    else if c = '"' || c = '\\' then "\\" ++ String.singleton c
    else String.singleton c) ++ "\""

/-- The message for a text that is not a duration. -/
def ParseError.message (text : String) : ParseError → String
  | .invalid => "time: invalid duration " ++ quote text
  | .missingUnit => "time: missing unit in duration " ++ quote text
  | .unknownUnit u => "time: unknown unit " ++ quote u ++ " in duration " ++ quote text

/-- Reads a duration, or gives the message that refuses it. -/
def parse (s : String) : Except String Duration :=
  match parseText s with
  | .ok d => .ok d
  | .error e => .error (e.message s)

/-- The decimal digits of `v % 10 ^ prec`, `prec` of them, without trailing zeros, after a
point; nothing when they are all zero. -/
def fraction (v prec : Nat) : String :=
  let digits := Nat.toDigits 10 (v % Nat.pow 10 prec)
  let padded := List.replicate (prec - digits.length) '0' ++ digits
  let kept := (padded.reverse.dropWhile (· = '0')).reverse
  if kept.isEmpty then "" else "." ++ String.ofList kept

/-- The text of a magnitude in nanoseconds. -/
def renderMagnitude (u : Nat) : String :=
  if u = 0 then "0s"
  else if u < 1000 then toString u ++ "ns"
  else if u < 1000000 then toString (u / 1000) ++ fraction u 3 ++ "µs"
  else if u < second then toString (u / 1000000) ++ fraction u 6 ++ "ms"
  else
    let secs := u / second
    let mins := secs / 60
    let hours := mins / 60
    let h := if hours > 0 then toString hours ++ "h" else ""
    let m := if mins > 0 then toString (mins % 60) ++ "m" else ""
    h ++ m ++ toString (secs % 60) ++ fraction u 9 ++ "s"

/-- The text of a duration: a sign for a negative one, then its magnitude. -/
def render (d : Duration) : String :=
  (if d.nanos < 0 then "-" else "") ++ renderMagnitude d.nanos.natAbs

end Duration

end Regress
