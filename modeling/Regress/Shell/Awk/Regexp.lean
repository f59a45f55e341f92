import Regress.Text.Regex

/-!
# The regular expressions of awk

awk's regular expressions are extended ones with the escapes of its strings, read into the
project's `Regex` so that the one matcher serves awk as it serves `grep` and `sed`.

* `|` separates alternatives, `(` `)` group, `*`, `+` and `?` repeat, `.` is any character,
  `^` and `$` anchor at the ends of the text wherever they stand, and `[...]` is a set with
  ranges, classes such as `[:digit:]`, and `^` first for the complement. Braces are ordinary
  characters, and so is a `)` with no `(`.
* A backslash before one of `"\abfnrtv`, octal digits or `x` and hexadecimal digits stands for
  the character its string escape does, also inside a set; before anything else it stands for
  that character as itself, and at the end for a backslash.
* An alternative or group with nothing in it, or a repeat with nothing before it, is missing
  its operand; `^` repeated by `*` or `+` is refused; a `(` must be closed and a set ended, and
  a class must be one of the C locale.
-/

namespace Regress.Awk

/-- The value of an octal or hexadecimal digit. -/
def digitIn (base : Nat) (c : Char) : Option Nat :=
  if c.isDigit && c.toNat - '0'.toNat < base then some (c.toNat - '0'.toNat)
  else if base == 16 && 'a' ≤ c.toLower && c.toLower ≤ 'f' then some (c.toLower.toNat - 'a'.toNat + 10)
  else none

/-- Reads up to `most` digits of a base: their value, how many, and the rest. -/
def readDigits (base : Nat) : Nat → List Char → Nat × Nat × List Char
  | 0, cs => (0, 0, cs)
  | most + 1, c :: rest =>
    match digitIn base c with
    | some d =>
      let (v, n, after) := readDigits base most rest
      (d * Nat.pow base n + v, n + 1, after)
    | none => (0, 0, c :: rest)
  | _ + 1, [] => (0, 0, [])

/-- The character a backslash and a letter stand for in a string, if they stand for one. -/
def controlEscape (c : Char) : Option Char :=
  match c with
  | '"' => some '"'
  | '\\' => some '\\'
  | 'a' => some '\x07'
  | 'b' => some '\x08'
  | 'f' => some '\x0c'
  | 'n' => some '\n'
  | 'r' => some '\r'
  | 't' => some '\t'
  | 'v' => some '\x0b'
  | _ => none

/-- The character a backslash stands for in a regular expression, from what follows it, and
the rest. -/
def regexEscape (cs : List Char) : Char × List Char :=
  match cs with
  | [] => ('\\', [])
  | c :: rest =>
    match controlEscape c with
    | some e => (e, rest)
    | none =>
      if c.isDigit && c.toNat < '8'.toNat then
        let (v, _, after) := readDigits 8 3 cs
        (Char.ofNat (v % 256), after)
      else if c == 'x' then
        let (v, n, after) := readDigits 16 2 rest
        if n == 0 then (c, rest) else (Char.ofNat v, after)
      else (c, rest)

/-- The message for a set that is not ended or has an unknown class. -/
def badClass : String := "bad class -- [], [^] or ["

/-- Reads a character of a set: escapes are undone. -/
def setChar (c : Char) (rest : List Char) : Char × List Char :=
  if c == '\\' then regexEscape rest else (c, rest)

/-- The items of a set after its `[` and optional `^`, up to its `]`: the ranges and the rest
of the expression. -/
def setItems : Nat → Bool → List Char → List (Char × Char) →
    Except String (List (Char × Char) × List Char)
  | 0, _, _, _ => .error badClass
  | _ + 1, _, [], _ => .error badClass
  | fuel + 1, first, c :: rest, acc =>
    if c == ']' && !first then .ok (acc.reverse, rest)
    else if c == '[' && rest.head? == some ':' then
      let name := (rest.drop 1).takeWhile (· != ':')
      match (rest.drop 1).drop name.length with
      | ':' :: ']' :: more =>
        match Regex.classRanges (String.ofList name) with
        | some rs => setItems fuel false more (rs.reverse ++ acc)
        | none => .error badClass
      | _ => .error badClass
    else
      let (lo, after) := setChar c rest
      match after with
      | '-' :: d :: more =>
        if d == ']' then setItems fuel false after ((lo, lo) :: acc)
        else
          let (hi, after) := setChar d more
          setItems fuel false after ((lo, hi) :: acc)
      | _ => setItems fuel false after ((lo, lo) :: acc)

/-- A set after its `[`: whether it is a complement, its ranges and the rest. -/
def readSet (cs : List Char) : Except String (Bool × List (Char × Char) × List Char) :=
  let (negated, cs) := match cs with
    | '^' :: r => (true, r)
    | r => (false, r)
  (setItems (cs.length + 1) true cs []).map fun (rs, rest) => (negated, rs, rest)

/-- The message for a repeat with nothing to repeat. -/
def missingOperand : String := "missing operand"

/-- Applies the repeat operators that follow an atom. -/
def repeats : Nat → Regex → List Char → Except String (Regex × List Char)
  | 0, r, cs => .ok (r, cs)
  | fuel + 1, r, c :: rest =>
    let anchor := match r with
      | .lineStart => true
      | _ => false
    if (c == '*' || c == '+') && anchor then .error "syntax error ^* or ^+"
    else if c == '*' then repeats fuel (.repeat r 0 none) rest
    else if c == '+' then repeats fuel (.repeat r 1 none) rest
    else if c == '?' then repeats fuel (.repeat r 0 (some 1)) rest
    else .ok (r, c :: rest)
  | _ + 1, r, [] => .ok (r, [])

mutual

/-- Reads alternatives up to the end or, inside a group, its `)`: the expression, the rest,
and whether an alternative was empty. -/
def readAlt : Nat → Nat → List Char → Except String (Regex × List Char × Bool)
  | 0, _, cs => .ok (.empty, cs, false)
  | fuel + 1, depth, cs => do
    let (first, rest, empty) ← readBranch fuel depth cs none
    match rest with
    | '|' :: more =>
      let (second, after, emptyRest) ← readAlt fuel depth more
      if empty || emptyRest then throw missingOperand
      pure (.alt first second, after, false)
    | _ => pure (first, rest, empty)

/-- Reads the atoms of an alternative onto what was read so far: the sequence, the rest, and
whether it is empty. -/
def readBranch : Nat → Nat → List Char → Option Regex → Except String (Regex × List Char × Bool)
  | 0, _, cs, acc => .ok (acc.getD .empty, cs, acc.isNone)
  | fuel + 1, depth, cs, acc =>
    let done := match cs with
      | [] => true
      | '|' :: _ => true
      | ')' :: _ => depth > 0
      | _ => false
    if done then .ok (acc.getD .empty, cs, acc.isNone)
    else do
      let (atom, rest) ← readAtom fuel depth cs
      let (piece, rest) ← repeats (rest.length + 1) atom rest
      let acc := match acc with
        | some r => Regex.seq r piece
        | none => piece
      readBranch fuel depth rest (some acc)

/-- Reads one atom. -/
def readAtom : Nat → Nat → List Char → Except String (Regex × List Char)
  | 0, _, cs => .ok (.empty, cs)
  | _ + 1, _, [] => .ok (.empty, [])
  | fuel + 1, depth, c :: rest =>
    if c == '*' || c == '+' || c == '?' then .error missingOperand
    else if c == '(' then do
      let (inner, after, empty) ← readAlt fuel (depth + 1) rest
      match after with
      | ')' :: more => if empty then throw missingOperand else pure (inner, more)
      | _ => throw "missing \x27)\x27"
    else if c == '.' then .ok (.any, rest)
    else if c == '^' then .ok (.lineStart, rest)
    else if c == '$' then .ok (.lineEnd, rest)
    else if c == '[' then do
      let (negated, ranges, after) ← readSet rest
      pure (.set negated ranges, after)
    else if c == '\\' then
      let (e, after) := regexEscape rest
      .ok (.char e, after)
    else .ok (.char c, rest)

end

/-- Reads an awk regular expression, or the reason it is refused. -/
def compileRegex (source : String) : Except String Regex := do
  let cs := source.toList
  let (r, _, empty) ← readAlt (cs.length + 2) 0 cs
  if empty && !cs.isEmpty then throw missingOperand
  pure r

end Regress.Awk
