/-!
# Points in time

A `Timestamp` is a date and a time of day with nanoseconds, together with the zone it was
written in. YAML writes one in four forms, tried in order:

1. `YYYY-M-DTH:M:S` with an optional fraction and a zone `Z` or `±hh:mm`;
2. the same with a lowercase `t`;
3. `YYYY-M-D H:M:S` with an optional fraction and no zone, the blank standing for any run of
   blanks;
4. `YYYY-M-D` alone, which is midnight.

The year has exactly four digits; the month, day, hour, minute and second one or two. A
fraction follows a point or a comma and may have any number of digits, of which the first nine
count. The month runs from 1 to 12, the day to the length of its month, the hour to 23 and the
minute and second to 59. A zone offset has two digits of hours, at most 24, and two of minutes,
at most 60.

A time with no zone, or with `Z`, is in UTC. A numeric offset of zero is the local zone, which
is UTC as well; any other offset is a zone of its own with no name.

`Timestamp.rfc3339` writes the time for JSON: the date and time with two digits each, the
fraction without its trailing zeros, and `Z` or the offset. An offset of 24 hours or more has
no such form. `Timestamp.literal` writes the time as messages show a value: the call that
builds it from its fields.
-/

namespace Regress

/-- The zone a time is written in. -/
inductive Zone where
  | utc
  | localUtc
  | offset (seconds : Int)
  deriving Repr, DecidableEq, Inhabited

/-- The offset of a zone in seconds east of UTC. -/
def Zone.seconds : Zone → Int
  | .utc | .localUtc => 0
  | .offset s => s

/-- A date and time of day in a zone. -/
structure Timestamp where
  year : Nat
  month : Nat
  day : Nat
  hour : Nat
  minute : Nat
  second : Nat
  nanos : Nat
  zone : Zone
  deriving Repr, DecidableEq, Inhabited

namespace Timestamp

/-- Whether a year is a leap year. -/
def isLeap (year : Nat) : Bool :=
  (year % 4 == 0 && year % 100 != 0) || year % 400 == 0

/-- The number of days in a month. -/
def daysIn (year month : Nat) : Nat :=
  if month == 2 then (if isLeap year then 29 else 28)
  else if month == 4 || month == 6 || month == 9 || month == 11 then 30
  else 31

/-- The value of a digit. -/
def digitOf (c : Char) : Nat :=
  c.toNat - '0'.toNat

/-- One or two digits at the start of a text. -/
def number (cs : List Char) : Option (Nat × List Char) :=
  match cs with
  | a :: b :: rest =>
    if a.isDigit && b.isDigit then some (digitOf a * 10 + digitOf b, rest)
    else if a.isDigit then some (digitOf a, b :: rest)
    else none
  | [a] => if a.isDigit then some (digitOf a, []) else none
  | [] => none

/-- Exactly two digits. -/
def twoDigits : List Char → Option Nat
  | [a, b] => if a.isDigit && b.isDigit then some (digitOf a * 10 + digitOf b) else none
  | _ => none

/-- A given character at the start of a text: the text after it. -/
def expect (c : Char) : List Char → Option (List Char)
  | d :: rest => if c == d then some rest else none
  | [] => none

/-- The nanoseconds of a fraction after a point or a comma, if one starts the text: its first
nine digits, scaled to nine places. A separator not followed by a digit is no fraction. -/
def fraction (cs : List Char) : Nat × List Char :=
  match cs with
  | sep :: d :: rest =>
    if (sep == '.' || sep == ',') && d.isDigit then
      let ds := (d :: rest).takeWhile Char.isDigit
      let kept := ds.take 9
      let n := kept.foldl (fun a c => a * 10 + digitOf c) 0
      (n * Nat.pow 10 (9 - kept.length), (d :: rest).drop ds.length)
    else (0, cs)
  | _ => (0, cs)

/-- A zone `Z` or `±hh:mm`: the zone and the text after it. An offset of zero is the local
zone. -/
def zoneOf (cs : List Char) : Option (Zone × List Char) :=
  match cs with
  | 'Z' :: rest => some (.utc, rest)
  | sign :: h1 :: h2 :: ':' :: m1 :: m2 :: rest =>
    match twoDigits [h1, h2], twoDigits [m1, m2] with
    | some h, some m =>
      if h > 24 || m > 60 then none
      else
        let seconds : Int := ((h * 60 + m) * 60 : Nat)
        if sign == '+' then some (if seconds == 0 then .localUtc else .offset seconds, rest)
        else if sign == '-' then some (if seconds == 0 then .localUtc else .offset (-seconds), rest)
        else none
    | _, _ => none
  | _ => none

/-- The date at the start of a text: year, month, day and the rest. -/
def dateOf (cs : List Char) : Option (Nat × Nat × Nat × List Char) := do
  let year := cs.take 4
  if year.length != 4 || !year.all Char.isDigit then none
  let y := year.foldl (fun a c => a * 10 + digitOf c) 0
  let rest ← expect '-' (cs.drop 4)
  let (m, rest) ← number rest
  let rest ← expect '-' rest
  let (d, rest) ← number rest
  pure (y, m, d, rest)

/-- The time of day at the start of a text: hour, minute, second, nanoseconds and the rest. -/
def clockOf (cs : List Char) : Option (Nat × Nat × Nat × Nat × List Char) := do
  let (h, rest) ← number cs
  let rest ← expect ':' rest
  let (mi, rest) ← number rest
  let rest ← expect ':' rest
  let (s, rest) ← number rest
  let (ns, rest) := fraction rest
  if h > 23 || mi > 59 || s > 59 then none
  pure (h, mi, s, ns, rest)

/-- Whether a date exists. -/
def validDate (y m d : Nat) : Bool :=
  1 ≤ m && m ≤ 12 && 1 ≤ d && d ≤ daysIn y m

/-- The first form: a date, the separator `sep`, a time and a zone. -/
def withZone (sep : Char) (cs : List Char) : Option Timestamp := do
  let (y, mo, d, rest) ← dateOf cs
  let rest ← expect sep rest
  let (h, mi, s, ns, rest) ← clockOf rest
  let (zone, rest) ← zoneOf rest
  if !rest.isEmpty || !validDate y mo d then none
  pure ⟨y, mo, d, h, mi, s, ns, zone⟩

/-- The third form: a date, blanks, a time and no zone. -/
def spaced (cs : List Char) : Option Timestamp := do
  let (y, mo, d, rest) ← dateOf cs
  match rest with
  | ' ' :: _ =>
    let (h, mi, s, ns, rest) ← clockOf (rest.dropWhile (· == ' '))
    if !rest.isEmpty || !validDate y mo d then none
    pure ⟨y, mo, d, h, mi, s, ns, .utc⟩
  | _ => none

/-- The fourth form: a date alone, at midnight. -/
def dateOnly (cs : List Char) : Option Timestamp := do
  let (y, mo, d, rest) ← dateOf cs
  if !rest.isEmpty || !validDate y mo d then none
  pure ⟨y, mo, d, 0, 0, 0, 0, .utc⟩

/-- Reads a timestamp in one of the four forms. Only a text that starts with four digits and a
dash is tried. -/
def parse (text : String) : Option Timestamp :=
  let cs := text.toList
  if (cs.take 4).length != 4 || !(cs.take 4).all Char.isDigit || (cs.drop 4).head? != some '-' then
    none
  else
    (withZone 'T' cs).orElse fun _ => (withZone 't' cs).orElse fun _ =>
      (spaced cs).orElse fun _ => dateOnly cs

/-- `n` with zeros in front up to `width` digits. -/
def padded (width n : Nat) : String :=
  let s := toString n
  String.ofList (List.replicate (width - s.length) '0') ++ s

/-- The fraction of a second for RFC 3339: a point and the nine digits without the zeros at
their end, or nothing for a whole second. -/
def fractionText (nanos : Nat) : String :=
  if nanos == 0 then ""
  else
    let ds := ((padded 9 nanos).toList.reverse.dropWhile (· == '0')).reverse
    "." ++ String.ofList ds

/-- The time in RFC 3339 form, or the reason it has none: an offset whose hours need more
than two digits or reach 24. -/
def rfc3339 (t : Timestamp) : Except String String :=
  let base := padded 4 t.year ++ "-" ++ padded 2 t.month ++ "-" ++ padded 2 t.day ++ "T" ++
    padded 2 t.hour ++ ":" ++ padded 2 t.minute ++ ":" ++ padded 2 t.second ++ fractionText t.nanos
  let off := t.zone.seconds
  if off == 0 then .ok (base ++ "Z")
  else
    let minutes := off.natAbs / 60
    let hours := minutes / 60
    if hours ≥ 24 then .error "timezone hour outside of range [0,23]"
    else .ok (base ++ (if off < 0 then "-" else "+") ++ padded 2 hours ++ ":" ++ padded 2 (minutes % 60))

/-- The English names of the months. -/
def monthNames : List String :=
  ["January", "February", "March", "April", "May", "June", "July", "August", "September",
    "October", "November", "December"]

/-- The time as messages show a value: the call that builds it from its fields. -/
def literal (t : Timestamp) : String :=
  let zone := match t.zone with
    | .utc => "time.UTC"
    | .localUtc => "time.Local"
    | .offset _ => "time.Location(\"\")"
  "time.Date(" ++ toString t.year ++ ", time." ++ monthNames.getD (t.month - 1) "" ++ ", " ++
    toString t.day ++ ", " ++ toString t.hour ++ ", " ++ toString t.minute ++ ", " ++
    toString t.second ++ ", " ++ toString t.nanos ++ ", " ++ zone ++ ")"

end Timestamp

end Regress
