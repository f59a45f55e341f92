import Regress.Duration
import Regress.Text.Csv
import Regress.Text.Escape

/-!
# Flags

A command's flags are read off its command line before it runs.

* `--name=value`, or `--name value` when the flag takes a value; a switch alone means true.
* `-x value`, `-xvalue` or `-x=value` for a flag with a one-letter shorthand; switches can be
  run together, as in `-hx`.
* `--` ends the flags; the words after it are arguments even if they start with a dash. Any
  other word, a lone `-` included, is an argument, and flags may come after arguments.

A text flag keeps the last value given. A list flag reads each value as comma-separated values;
the first value replaces the default and later ones add to it. A switch reads `1`, `t`, `T`,
`TRUE`, `true`, `True` and their counterparts for false. A duration flag reads a duration.

The usage lines list the flags by name, each with its shorthand and the kind of value it takes,
and line up their descriptions one column after the longest flag.
-/

namespace Regress.Cli

/-- The kinds of value a flag takes. -/
inductive FlagKind where
  | text
  | texts
  | switch
  | duration
  deriving Repr, DecidableEq, Inhabited

/-- The name of a kind in usage lines; a switch shows none. -/
def FlagKind.typeName : FlagKind → String
  | .text => "string"
  | .texts => "strings"
  | .switch => ""
  | .duration => "duration"

/-- A flag a command accepts. -/
structure Flag where
  name : String
  shorthand : Option Char := none
  kind : FlagKind
  usage : String
  deriving Repr, DecidableEq, Inhabited

/-- The value a flag was given. -/
inductive FlagValue where
  | text (s : String)
  | texts (xs : List String)
  | switch (b : Bool)
  | duration (d : Duration)
  deriving Repr, DecidableEq, Inhabited

/-- What a command line gave: the values of the flags that were set, in the order they were
first set, and the arguments. -/
structure Parsed where
  values : List (String × FlagValue) := []
  args : List String := []
  deriving Repr, DecidableEq, Inhabited

namespace Parsed

/-- The value of a flag, if it was set. -/
def value? (p : Parsed) (name : String) : Option FlagValue :=
  (p.values.find? (·.1 == name)).map (·.2)

/-- The text of a text flag, or the empty text. -/
def text (p : Parsed) (name : String) : String :=
  match p.value? name with
  | some (.text s) => s
  | _ => ""

/-- The items of a list flag, or none. -/
def texts (p : Parsed) (name : String) : List String :=
  match p.value? name with
  | some (.texts xs) => xs
  | _ => []

/-- Whether a switch is on. -/
def switch (p : Parsed) (name : String) : Bool :=
  match p.value? name with
  | some (.switch b) => b
  | _ => false

/-- The duration of a duration flag, or zero. -/
def duration (p : Parsed) (name : String) : Duration :=
  match p.value? name with
  | some (.duration d) => d
  | _ => ⟨0⟩

end Parsed

/-- Reads a switch value. -/
def parseSwitch (s : String) : Except String Bool :=
  if ["1", "t", "T", "TRUE", "true", "True"].contains s then .ok true
  else if ["0", "f", "F", "FALSE", "false", "False"].contains s then .ok false
  else .error ("strconv.ParseBool: parsing " ++ Escape.quoted s ++ ": invalid syntax")

/-- How a flag is named in a message about its value. -/
def Flag.title (f : Flag) : String :=
  match f.shorthand with
  | some c => "-" ++ String.singleton c ++ ", --" ++ f.name
  | none => "--" ++ f.name

/-- The new value of a flag given `text`, the value it had if it was set before. -/
def Flag.read (f : Flag) (old : Option FlagValue) (text : String) : Except String FlagValue :=
  match f.kind with
  | .text => .ok (.text text)
  | .switch => (parseSwitch text).map .switch
  | .duration =>
    match Duration.parseText text with
    | .ok d => .ok (.duration d)
    | .error e => .error (e.message text)
  | .texts =>
    match Csv.readRecord text with
    | .error e => .error e.message
    | .ok items =>
      match old with
      | some (.texts xs) => .ok (.texts (xs ++ items))
      | _ => .ok (.texts items)

/-- Sets a flag to a value given as text. -/
def Parsed.set (p : Parsed) (f : Flag) (text : String) : Except String Parsed :=
  match f.read (p.value? f.name) text with
  | .error e =>
    .error ("invalid argument " ++ Escape.quoted text ++ " for " ++ Escape.quoted f.title ++
      " flag: " ++ e)
  | .ok v =>
    if p.values.any (·.1 == f.name) then
      .ok { p with values := p.values.map fun (n, old) => if n == f.name then (n, v) else (n, old) }
    else .ok { p with values := p.values ++ [(f.name, v)] }

/-- A character between single quotes, as messages about shorthands show a byte: a character
beyond ASCII shows as the character its first byte stands for. -/
def quoteByte (c : Char) : String :=
  let shown := if c.toNat < 0x80 then c
    else Char.ofNat ((Utf8.ofChar c).headD 0).toNat
  "'" ++ Escape.escapeChar '\'' shown ++ "'"

/-- Reads one long flag `s` (with its dashes) and its value: the words left after it. -/
def parseLong (flags : List Flag) (p : Parsed) (s : String) (rest : List String) :
    Except String (Parsed × List String) :=
  let name := s.drop 2 |>.toString
  if name.isEmpty || name.startsWith "-" || name.startsWith "=" then
    .error ("bad flag syntax: " ++ s)
  else
    let (key, given) := match name.splitOn "=" with
      | k :: v :: vs => (k, some ("=".intercalate (v :: vs)))
      | _ => (name, none)
    match flags.find? (·.name == key) with
    | none => .error ("unknown flag: --" ++ key)
    | some f =>
      match given with
      | some v => (p.set f v).map (·, rest)
      | none =>
        if f.kind == .switch then (p.set f "true").map (·, rest)
        else
          match rest with
          | v :: rest' => (p.set f v).map (·, rest')
          | [] => .error ("flag needs an argument: " ++ s)

/-- Reads the shorthands of one short flag word, one letter at a time. -/
def parseShorts (flags : List Flag) : Nat → Parsed → List Char → List String →
    Except String (Parsed × List String)
  | 0, p, _, rest => .ok (p, rest)
  | _ + 1, p, [], rest => .ok (p, rest)
  | fuel + 1, p, c :: cs, rest =>
    let word := String.ofList (c :: cs)
    if word.startsWith "test." then .ok (p, rest)
    else
      match flags.find? (·.shorthand == some c) with
      | none => .error ("unknown shorthand flag: " ++ quoteByte c ++ " in -" ++ word)
      | some f =>
        match cs with
        | '=' :: v@(_ :: _) => (p.set f (String.ofList v)).map (·, rest)
        | _ =>
          if f.kind == .switch then
            match p.set f "true" with
            | .ok p => parseShorts flags fuel p cs rest
            | .error e => .error e
          else if !cs.isEmpty then (p.set f (String.ofList cs)).map (·, rest)
          else
            match rest with
            | v :: rest' => (p.set f v).map (·, rest')
            | [] => .error ("flag needs an argument: " ++ quoteByte c ++ " in -" ++ word)

/-- Reads the words of a command line. -/
def parseWords (flags : List Flag) : Nat → Parsed → List String → Except String Parsed
  | 0, p, _ => .ok p
  | _ + 1, p, [] => .ok p
  | fuel + 1, p, s :: rest =>
    if s == "--" then .ok { p with args := p.args ++ rest }
    else if s.length < 2 || !s.startsWith "-" then parseWords flags fuel { p with args := p.args ++ [s] } rest
    else if s.startsWith "--" then
      match parseLong flags p s rest with
      | .ok (p, rest) => parseWords flags fuel p rest
      | .error e => .error e
    else
      let cs := (s.drop 1).toString.toList
      match parseShorts flags (cs.length + 1) p cs rest with
      | .ok (p, rest) => parseWords flags fuel p rest
      | .error e => .error e

/-- Reads a command line against the flags of a command. -/
def parse (flags : List Flag) (words : List String) : Except String Parsed :=
  parseWords flags (words.length + 1) {} words

/-- Drops trailing blanks and line breaks. -/
def trimTrailing (s : String) : String :=
  String.ofList (s.toList.reverse.dropWhile Char.isWhitespace).reverse

/-- The usage lines of flags, sorted by name, descriptions lined up. -/
def usages (flags : List Flag) : String :=
  let sorted := flags.mergeSort fun a b => decide (a.name ≤ b.name)
  let heads := sorted.map fun f =>
    let head := match f.shorthand with
      | some c => "  -" ++ String.singleton c ++ ", --" ++ f.name
      | none => "      --" ++ f.name
    let ty := f.kind.typeName
    (if ty.isEmpty then head else head ++ " " ++ ty, f.usage)
  let width := (heads.map fun (h, _) => h.utf8ByteSize + 1).foldl max 0
  String.join (heads.map fun (h, u) =>
    h ++ " " ++ String.ofList (List.replicate (width - h.utf8ByteSize) ' ') ++ " " ++ u ++ "\n")

end Regress.Cli
