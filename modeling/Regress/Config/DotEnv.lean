import Regress.Environment
import Regress.Text.Escape
import Regress.Text.Utf8

/-!
# Environment files

An environment file sets variables, one statement per line: `NAME=value` or `NAME: value`,
with an optional `export ` in front. Blank lines and lines starting with `#` are skipped; a
statement of `export` and blanks alone is an error.

* **Names.** A name holds letters, digits, `_` and `.`, read octet by octet as Latin-1
  characters. Blanks inside the name are kept, and trailing white space is dropped. Any other
  octet is an error that quotes it and the rest of the file.
* **Plain values.** A value runs to the end of the line. A comment after a blank and `#` is cut
  off, and blanks around the value go.
* **Quoted values.** A value in single or double quotes runs to the next quote that is not
  after a backslash, across lines. An unterminated one is an error. Single quotes keep the
  text as it is.
* **Escapes and references.** In double quotes, `\n` and `\r` become line breaks and a
  backslash before any other character but `$` is dropped. Plain and double-quoted values also
  replace `$NAME` and `${NAME}` (upper-case names only) by the value set earlier in the file,
  else by nothing, whatever the environment holds; `\$` keeps a dollar sign.

Loading the file sets only the variables the environment does not have yet.
-/

namespace Regress.DotEnv

/-- Blanks within a line: tab, vertical tab, form feed, carriage return, space, next line and
no-break space. -/
def isBlank (c : Char) : Bool :=
  c == '\t' || c == '\x0b' || c == '\x0c' || c == '\r' || c == ' ' || c == '\u0085' ||
    c == '\u00A0'

/-- White space in the Unicode sense, line feed included. -/
def isWhite (c : Char) : Bool :=
  isBlank c || c == '\n' || c == '\u1680' || ('\u2000' ≤ c && c ≤ '\u200A') ||
    c == '\u2028' || c == '\u2029' || c == '\u202F' || c == '\u205F' || c == '\u3000'

/-- The text from the next statement on, skipping white space and comment lines; `none` at the
end of the file. -/
def statementStart : Nat → List Char → Option (List Char)
  | 0, _ => none
  | fuel + 1, cs =>
    match cs.dropWhile isWhite with
    | [] => none
    | '#' :: rest =>
      let next := rest.dropWhile (· != '\n')
      if next.isEmpty then none else statementStart fuel next
    | st => some st

/-- Whether an octet, read as a Latin-1 character, is a letter or a number. -/
def latinWord (b : Nat) : Bool :=
  (0x30 ≤ b && b ≤ 0x39) || (0x41 ≤ b && b ≤ 0x5A) || (0x61 ≤ b && b ≤ 0x7A) || b == 0xAA ||
    b == 0xB2 || b == 0xB3 || b == 0xB5 || b == 0xB9 || b == 0xBA || (0xBC ≤ b && b ≤ 0xBE) ||
    (0xC0 ≤ b && b != 0xD7 && b != 0xF7)

/-- Whether an octet, read as a Latin-1 character, is a blank. -/
def blankOctet (b : Nat) : Bool :=
  b == 9 || b == 11 || b == 12 || b == 13 || b == 32 || b == 0x85 || b == 0xA0

/-- Where the name ends: the place of the `=` or `:` after it, none if the text ends first, or
the first octet that cannot be in a name. -/
def nameEnd : List UInt8 → Nat → Except UInt8 (Option Nat)
  | [], _ => .ok none
  | b :: rest, i =>
    let v := b.toNat
    if blankOctet v then nameEnd rest (i + 1)
    else if v == '='.toNat || v == ':'.toNat then .ok (some i)
    else if v == '_'.toNat || v == '.'.toNat || latinWord v then nameEnd rest (i + 1)
    else .error b

/-- Drops `export` and the blanks after it from the front of a statement. -/
def dropExport (cs : List Char) : List Char :=
  if cs.take 6 == "export".toList then
    match cs.drop 6 with
    | c :: rest => if isBlank c then (c :: rest).dropWhile isBlank else cs
    | [] => cs
  else cs

/-- Reads the name of a statement: the name and the text after its `=` or `:`. A statement
that is only `export` and blanks has no name at all. -/
def locateName (st : List Char) : Except String (String × List Char) :=
  let src := dropExport (st.dropWhile isBlank)
  let octets := Utf8.octets (String.ofList src)
  if src.isEmpty then .error "zero length string" else
  match nameEnd octets 0 with
  | .error b =>
    .error ("unexpected character " ++ Escape.quoted (String.singleton (Char.ofNat b.toNat)) ++
      " in variable name near " ++ Escape.quoted (String.ofList src))
  | .ok none => .ok ("", src.dropWhile isBlank)
  | .ok (some i) =>
    let name := (Utf8.decode (octets.take i)).toList
    let name := (name.reverse.dropWhile isWhite).reverse
    let rest := (Utf8.decode (octets.drop (i + 1))).toList
    .ok (String.ofList name, rest.dropWhile isBlank)

/-- A name in a reference: upper-case letters, digits and `_`. -/
def isRefChar (c : Char) : Bool :=
  ('A' ≤ c && c ≤ 'Z') || c.isDigit || c == '_'

/-- What follows a `$` in a reference: an optional `(`, an optional `{`, the name and an
optional `}`; the text it spans, the name and the rest. -/
def reference (cs : List Char) : List Char × String × List Char :=
  let (p, cs) := match cs with
    | '(' :: r => (['('], r)
    | r => ([], r)
  let (b, cs) := match cs with
    | '{' :: r => (['{'], r)
    | r => ([], r)
  let name := cs.takeWhile isRefChar
  let cs := cs.drop name.length
  let (e, cs) := match cs with
    | '}' :: r => (['}'], r)
    | r => ([], r)
  (p ++ b ++ name ++ e, String.ofList name, cs)

/-- The value a reference stands for: set earlier in the file, else empty. -/
def lookup (vars : List (String × String)) (name : String) : String :=
  match vars.find? (·.1 == name) with
  | some (_, v) => v
  | none => ""

/-- Replaces the references in a value. -/
def expand (vars : List (String × String)) : Nat → List Char → List Char
  | 0, cs => cs
  | fuel + 1, cs =>
    match cs with
    | '\\' :: '$' :: rest =>
      let (span, _, rest) := reference rest
      '$' :: span ++ expand vars fuel rest
    | '$' :: rest =>
      let (span, name, rest) := reference rest
      (if name.isEmpty then '$' :: span else (lookup vars name).toList) ++ expand vars fuel rest
    | c :: rest => c :: expand vars fuel rest
    | [] => []

/-- Turns `\n` and `\r` into line breaks; a backslash before a line break stays. -/
def lineEscapes : List Char → List Char
  | '\\' :: c :: rest =>
    if c == '\n' then '\\' :: lineEscapes (c :: rest)
    else if c == 'n' then '\n' :: lineEscapes rest
    else if c == 'r' then '\r' :: lineEscapes rest
    else '\\' :: c :: lineEscapes rest
  | c :: rest => c :: lineEscapes rest
  | [] => []

/-- Drops a backslash before any character but `$`. -/
def dropBackslashes : List Char → List Char
  | '\\' :: c :: rest =>
    if c == '$' then '\\' :: dropBackslashes (c :: rest) else c :: dropBackslashes rest
  | c :: rest => c :: dropBackslashes rest
  | [] => []

/-- The place of the closing quote: the first `q` after the opening one that does not follow a
backslash. -/
def closingQuote (q : Char) (cs : List Char) : Option Nat :=
  let indexed := cs.zipIdx
  (indexed.find? fun (c, i) => i ≥ 1 && c == q && cs[i - 1]? != some '\\').map (·.2)

/-- Reads the value of a statement: the value and the text after it. -/
def value (vars : List (String × String)) (src : List Char) :
    Except String (String × List Char) :=
  match src with
  | q :: _ =>
    if q == '"' || q == '\'' then
      match closingQuote q src with
      | some i =>
        let body := ((src.take i).reverse.dropWhile (· == q)).reverse.dropWhile (· == q)
        let body :=
          if q == '"' then
            let unescaped := dropBackslashes (lineEscapes body)
            expand vars (unescaped.length + 1) unescaped
          else body
        .ok (String.ofList body, src.drop (i + 1))
      | none =>
        .error ("unterminated quoted value " ++ String.ofList (src.takeWhile (· != '\n')))
    else plain
  | [] => plain
where
  /-- A value that runs to the end of the line. -/
  plain : Except String (String × List Char) :=
    let line := src.takeWhile fun c => c != '\n' && c != '\r'
    let rest := src.drop line.length
    let cuts := (line.zipIdx.filter fun (c, i) =>
      c == '#' && i > 0 && isBlank (line.getD (i - 1) 'x')).map (·.2)
    let kept := match cuts.getLast? with
      | some i => line.take i
      | none => line
    let trimmed := ((kept.dropWhile isBlank).reverse.dropWhile isBlank).reverse
    .ok (String.ofList (expand vars (trimmed.length + 1) trimmed), rest)

/-- Sets a name in the list of statements read so far. -/
def setVar (vars : List (String × String)) (k v : String) : List (String × String) :=
  if vars.any (·.1 == k) then vars.map fun (a, b) => if a == k then (a, v) else (a, b)
  else vars ++ [(k, v)]

/-- Reads the statements from `cs` on, onto `vars`. -/
def statements : Nat → List Char → List (String × String) →
    Except String (List (String × String))
  | 0, _, vars => .ok vars
  | fuel + 1, cs, vars =>
    match statementStart (cs.length + 1) cs with
    | none => .ok vars
    | some st =>
      match locateName st with
      | .error m => .error m
      | .ok (name, rest) =>
        match value vars rest with
        | .error m => .error m
        | .ok (v, rest) => statements fuel rest (setVar vars name v)

/-- The variables an environment file sets, in order, or why it cannot be read. -/
def parse (text : String) : Except String (List (String × String)) :=
  let cs := (text.replace "\r\n" "\n").toList
  statements (cs.length + 1) cs []

/-- Loads the variables into the environment, leaving those it has. -/
def load (env : Environment) (vars : List (String × String)) : Environment :=
  vars.foldl (fun e (k, v) => if env.has k then e else e.set k v) env

end Regress.DotEnv
