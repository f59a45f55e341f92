import Regress.Number.Binary64
import Regress.Time

/-!
# What a scalar means

A plain scalar with no tag is resolved by its text.

* `~`, `null` and the empty text are null.
* `true` and `false`, in lower case, capitalised or upper case, are booleans.
* `.nan` and `.inf` with an optional sign are the special floats.
* A text that starts with a digit or a sign may be a timestamp, an integer or a float.
  - Timestamps take the forms `Timestamp.parse` reads.
  - Integers may be decimal, `0x` hexadecimal, `0o` or leading-`0` octal, or `0b` binary, with
    `_` between digits ignored.
  - An integer out of the signed 64-bit range may still fit the unsigned one.
  - A float has digits, a point and an exponent in the usual way, and is read as the nearest
    double; one that rounds past the largest double is no float.
* Every other text is a string.

A tag asks for one of these readings, and the text must give it. An integer is accepted where a
float is asked for, and becomes the nearest double. `!!str` and `!!binary` take any text. A tag
that is not one of the standard scalar tags keeps the text as a string.
-/

namespace Regress.Yaml

/-- The prefix of the standard tags, which are written `!!name` for short. -/
def standardTagPrefix : String := "tag:yaml.org,2002:"

/-- A tag as it is written for short. -/
def shortTag (tag : String) : String :=
  if tag.startsWith standardTagPrefix then "!!" ++ (tag.drop standardTagPrefix.length).toString
  else tag

/-- A float: a finite double or one of the special values. -/
inductive FloatValue where
  | finite (b : Binary64)
  | nan
  | posInf
  | negInf
  deriving Repr, DecidableEq, Inhabited

/-- What a scalar resolves to. An integer in the signed 64-bit range is `int`; one above it
that fits 64 unsigned bits is `uint`. -/
inductive Scalar where
  | null
  | bool (b : Bool)
  | int (i : Int)
  | uint (n : Nat)
  | float (f : FloatValue)
  | str (s : String)
  | time (t : Timestamp)
  deriving Repr, DecidableEq, Inhabited

/-- The tags the resolver knows; others keep the text as it is. -/
def resolvableTag (tag : String) : Bool :=
  tag == "" || tag == "!!str" || tag == "!!bool" || tag == "!!int" || tag == "!!float" ||
    tag == "!!timestamp" || tag == "!!null"

/-- The texts that name a value outright. -/
def namedScalar : String → Option (String × Scalar)
  | "true" | "True" | "TRUE" => some ("!!bool", .bool true)
  | "false" | "False" | "FALSE" => some ("!!bool", .bool false)
  | "" | "~" | "null" | "Null" | "NULL" => some ("!!null", .null)
  | ".nan" | ".NaN" | ".NAN" => some ("!!float", .float .nan)
  | ".inf" | ".Inf" | ".INF" | "+.inf" | "+.Inf" | "+.INF" => some ("!!float", .float .posInf)
  | "-.inf" | "-.Inf" | "-.INF" => some ("!!float", .float .negInf)
  | "<<" => some ("!!merge", .str "<<")
  | _ => none

/-- What the first character says a text may be: `S` a sign, `D` a digit, `M` the start of a
named value, `.` a float; anything else can only be a string. -/
def hint (text : String) : Option Char :=
  match text.toList with
  | [] => some 'N'
  | c :: _ =>
    if c == '+' || c == '-' then some 'S'
    else if c.isDigit then some 'D'
    else if "yYnNtTfFoO~".toList.contains c then some 'M'
    else if c == '.' then some '.'
    else none

/-- The value of a digit in bases up to 36. -/
def digitValue (c : Char) : Option Nat :=
  if c.isDigit then some (c.toNat - '0'.toNat)
  else if 'a' ≤ c && c ≤ 'z' then some (c.toNat - 'a'.toNat + 10)
  else if 'A' ≤ c && c ≤ 'Z' then some (c.toNat - 'A'.toNat + 10)
  else none

/-- The value of the digits in `base`, if each is a digit of it and the value fits 64 bits. -/
def digitsValue (base : Nat) (cs : List Char) : Option Nat :=
  let v := cs.foldlM (fun acc c => (digitValue c).bind fun d =>
    if d < base then some (acc * base + d) else none) 0
  v.bind fun n => if n < Nat.pow 2 64 then some n else none

/-- An unsigned integer in `base`; base zero reads a `0b`, `0o` or `0x` prefix, or a leading
`0` as octal. -/
def parseUnsigned (base : Nat) (s : List Char) : Option Nat :=
  if s.isEmpty then none
  else if base == 0 then
    match s with
    | '0' :: c :: rest =>
      if s.length ≥ 3 && (c == 'b' || c == 'B') then digitsValue 2 rest
      else if s.length ≥ 3 && (c == 'o' || c == 'O') then digitsValue 8 rest
      else if s.length ≥ 3 && (c == 'x' || c == 'X') then digitsValue 16 rest
      else digitsValue 8 (c :: rest)
    | ['0'] => some 0
    | _ => digitsValue 10 s
  else digitsValue base s

/-- A signed 64-bit integer in `base`, with an optional sign. -/
def parseSigned (base : Nat) (s : List Char) : Option Int :=
  let (neg, body) := match s with
    | '+' :: r => (false, r)
    | '-' :: r => (true, r)
    | r => (false, r)
  if s.isEmpty then none
  else
    (parseUnsigned base body).bind fun n =>
      if !neg && n ≥ Nat.pow 2 63 then none
      else if neg && n > Nat.pow 2 63 then none
      else some (if neg then -(n : Int) else n)

/-- Splits off a run of digits. -/
def spanDigits (cs : List Char) : List Char × List Char :=
  (cs.takeWhile Char.isDigit, cs.dropWhile Char.isDigit)

/-- Whether a text has the shape of a YAML float: a sign, digits with an optional point and
fraction or a point and digits, and an optional exponent. -/
def floatShape (cs : List Char) : Bool :=
  let cs := match cs with
    | '+' :: r | '-' :: r => r
    | r => r
  let rest : Option (List Char) :=
    match cs with
    | '.' :: r =>
      let (ds, r) := spanDigits r
      if ds.isEmpty then none else some r
    | _ =>
      let (ds, r) := spanDigits cs
      if ds.isEmpty then none
      else match r with
        | '.' :: r => some (spanDigits r).2
        | _ => some r
  match rest with
  | none => false
  | some [] => true
  | some (e :: r) =>
    if e == 'e' || e == 'E' then
      let r := match r with
        | '+' :: r | '-' :: r => r
        | r => r
      let (ds, r) := spanDigits r
      !ds.isEmpty && r.isEmpty
    else false

/-- Whether the underscores in a number stand only between digits. -/
def underscoresBetweenDigits (cs : List Char) : Bool :=
  let rec go : List Char → Bool → Bool
    | [], _ => true
    | '_' :: rest, lastDigit =>
      lastDigit && (match rest with
        | c :: _ => c.isDigit
        | [] => false) && go rest false
    | c :: rest, _ => go rest c.isDigit
  go cs false

/-- Reads a decimal float text: the sign, the digits and the exponent of their last place, when
it has digits with an optional point, at least one digit, an optional exponent, and underscores
only between digits. -/
def decimalOf (text : String) : Option (Bool × Nat × Int) :=
  let cs := text.toList
  if cs.contains '_' && !underscoresBetweenDigits cs then none
  else
    let cs := cs.filter (· != '_')
    let (negative, cs) := match cs with
      | '+' :: r => (false, r)
      | '-' :: r => (true, r)
      | r => (false, r)
    let (intDigits, r) := spanDigits cs
    let (fracDigits, r) := match r with
      | '.' :: r => spanDigits r
      | r => ([], r)
    if intDigits.isEmpty && fracDigits.isEmpty then none
    else
      let expPart : Option Int :=
        match r with
        | [] => some 0
        | e :: r =>
          if e == 'e' || e == 'E' then
            let (neg, r) := match r with
              | '+' :: r => (false, r)
              | '-' :: r => (true, r)
              | r => (false, r)
            let (ds, r) := spanDigits r
            if ds.isEmpty || !r.isEmpty then none
            else
              let v : Nat := ds.foldl (fun a c => a * 10 + (c.toNat - '0'.toNat)) 0
              some (if neg then -(v : Int) else v)
          else none
      expPart.map fun e =>
        let m := (intDigits ++ fracDigits).foldl (fun a c => a * 10 + (c.toNat - '0'.toNat)) 0
        (negative, m, e - fracDigits.length)

/-- The double a decimal float text reads as, if it is one and stays finite. -/
def floatOf (text : String) : Option Binary64 :=
  (decimalOf text).bind fun (neg, m, e) => Binary64.ofDecimal neg m e

/-- Resolves a text with a resolvable tag, or none, by its form. -/
def resolveText (tag text : String) : String × Scalar := Id.run do
  match hint text with
  | none => return ("!!str", .str text)
  | some h =>
    if tag == "!!str" || tag == "!!binary" then return ("!!str", .str text)
    if let some r := namedScalar text then return r
    if h == '.' then
      if let some b := floatOf text then return ("!!float", .float (.finite b))
    if h == 'D' || h == 'S' then
      if tag == "" || tag == "!!timestamp" then
        if let some t := Timestamp.parse text then return ("!!timestamp", .time t)
      let plain := text.toList.filter (· != '_')
      if let some i := parseSigned 0 plain then return ("!!int", .int i)
      if let some n := parseUnsigned 0 plain then return ("!!int", .uint n)
      if floatShape plain then
        if let some b := floatOf (String.ofList plain) then return ("!!float", .float (.finite b))
      match plain with
      | '0' :: 'b' :: rest =>
        if let some i := parseSigned 2 rest then return ("!!int", .int i)
        if let some n := parseUnsigned 2 rest then return ("!!int", .uint n)
      | '-' :: '0' :: 'b' :: rest =>
        if let some i := parseSigned 2 ('-' :: rest) then return ("!!int", .int i)
      | _ => pure ()
      match plain with
      | '0' :: 'o' :: rest =>
        if let some i := parseSigned 8 rest then return ("!!int", .int i)
        if let some n := parseUnsigned 8 rest then return ("!!int", .uint n)
      | '-' :: '0' :: 'o' :: rest =>
        if let some i := parseSigned 8 ('-' :: rest) then return ("!!int", .int i)
      | _ => pure ()
    return ("!!str", .str text)

/-- Resolves a scalar's text under its tag: the tag it turned out to have and its value, or why
the text cannot have the tag asked for. -/
def resolve (tag text : String) : Except String (String × Scalar) :=
  let tag := shortTag tag
  if !resolvableTag tag then .ok (tag, .str text)
  else
    let (rtag, v) := resolveText tag text
    if tag == "" || tag == rtag || tag == "!!str" then .ok (rtag, v)
    else if tag == "!!float" && rtag == "!!int" then
      match v with
      | .int i => .ok ("!!float", .float (.finite (Binary64.ofInt i)))
      | .uint n => .ok ("!!float", .float (.finite (Binary64.ofInt n)))
      | _ => .ok (rtag, v)
    else .error ("cannot decode " ++ rtag ++ " \x60" ++ text ++ "\x60 as a " ++ tag)

end Regress.Yaml
