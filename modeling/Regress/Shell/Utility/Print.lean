import Regress.Shell.Utility.Basic
import Regress.Shell.Printf
import Regress.Shell.Condition

/-!
# Small utilities of the system

The system's own `echo`, `printf`, `test`, `pwd`, `printenv`, `sleep`, `true` and `false`, as a
script gets them when it runs them as programs rather than as commands of the shell.

* `echo` takes leading words made of the letters `n`, `e` and `E` as options: `-n` drops the
  final line break, `-e` turns on backslash escapes and `-E` turns them off again. With escapes
  on, `\c` ends the output, `\0NNN` and `\NNN` are octal and `\xHH` hexadecimal.
* `printf` formats as the shell's `printf` does, with its own messages: it quotes the argument
  it complains about, and a format that uses no argument warns about those it ignores.
* `sleep` checks its intervals and waits for as long as they add up to.
-/

namespace Regress.Shell

/-- Whether a character is a hexadecimal digit. -/
def isHexDigit (c : Char) : Bool :=
  c.isDigit || ('a' ≤ c && c ≤ 'f') || ('A' ≤ c && c ≤ 'F')

/-- The value of a hexadecimal digit. -/
def hexValue (c : Char) : Nat :=
  if c.isDigit then c.toNat - 48 else if 'a' ≤ c && c ≤ 'f' then c.toNat - 87 else c.toNat - 55

/-- Whether a character is an octal digit. -/
def isOctalDigit (c : Char) : Bool :=
  '0' ≤ c && c ≤ '7'

/-- Adds up to `n` more octal digits to a value. -/
def moreOctal : Nat → Nat → List Char → Nat × List Char
  | 0, v, cs => (v, cs)
  | n + 1, v, c :: rest => if isOctalDigit c then moreOctal n (v * 8 + (c.toNat - 48)) rest else (v, c :: rest)
  | _ + 1, v, [] => (v, [])

/-- The text of an operand of `echo -e`, and whether `\c` ended all output. -/
def echoOptionEscapes : Nat → List Char → List Char × Bool
  | 0, cs => (cs, false)
  | _ + 1, [] => ([], false)
  | fuel + 1, '\\' :: c :: rest =>
    let more (d : Char) (after : List Char) : List Char × Bool :=
      let (t, stop) := echoOptionEscapes fuel after
      (d :: t, stop)
    if c == 'c' then ([], true)
    else if c == 'a' then more '\x07' rest
    else if c == 'b' then more '\x08' rest
    else if c == 'e' then more '\x1b' rest
    else if c == 'f' then more '\x0c' rest
    else if c == 'n' then more '\n' rest
    else if c == 'r' then more '\r' rest
    else if c == 't' then more '\t' rest
    else if c == 'v' then more '\x0b' rest
    else if c == '\\' then more '\\' rest
    else if c == 'x' then
      match rest with
      | h :: more' =>
        if isHexDigit h then
          match more' with
          | l :: after =>
            if isHexDigit l then more (Char.ofNat (hexValue h * 16 + hexValue l)) after
            else more (Char.ofNat (hexValue h)) more'
          | [] => more (Char.ofNat (hexValue h)) []
        else
          let (t, stop) := echoOptionEscapes fuel rest
          ('\\' :: 'x' :: t, stop)
      | [] => ('\\' :: 'x' :: [], false)
    else if c == '0' then
      match rest with
      | d :: after =>
        if isOctalDigit d then
          let (v, after') := moreOctal 2 (d.toNat - 48) after
          more (Char.ofNat (v % 256)) after'
        else more '\x00' rest
      | [] => more '\x00' []
    else if isOctalDigit c then
      let (v, after) := moreOctal 2 (c.toNat - 48) rest
      more (Char.ofNat (v % 256)) after
    else
      let (t, stop) := echoOptionEscapes fuel (c :: rest)
      ('\\' :: t, stop)
  | fuel + 1, c :: rest =>
    let (t, stop) := echoOptionEscapes fuel rest
    (c :: t, stop)

/-- The words of `echo` with a blank between them, their escapes done when `escapes` is on
(those of bash's `echo` when `bash` is on), and whether `\c` ended all output. -/
def echoWords (bash escapes : Bool) : List String → List Char × Bool
  | [] => ([], false)
  | w :: rest =>
    let (t, stop) :=
      if !escapes then (w.toList, false)
      else if bash then
        let (t, stop, _) := bashEscapes .echo (w.length + 1) w.toList
        (t.toList, stop)
      else echoOptionEscapes (w.length + 1) w.toList
    if stop then (t, true)
    else
      match rest with
      | [] => (t, false)
      | _ =>
        let (more, stop') := echoWords bash escapes rest
        (t ++ ' ' :: more, stop')

/-- What `echo` with options writes for its arguments: leading words of `n`, `e` and `E` are
options, and escapes are off unless `-e` is the last of `-e` and `-E`. Bash's `echo` reads
escapes its own way (`bash`). -/
def optionEcho (bash : Bool) (args : List String) : String :=
  let isOption (a : String) : Bool :=
    a.length ≥ 2 && a.startsWith "-" && (a.toList.drop 1).all fun c => c == 'n' || c == 'e' || c == 'E'
  let opts := args.takeWhile isOption
  let letters := opts.flatMap fun o => o.toList.drop 1
  let escapes := letters.foldl (fun on c => if c == 'e' then true else if c == 'E' then false else on) false
  let (text, stop) := echoWords bash escapes (args.drop opts.length)
  String.ofList text ++ (if !letters.contains 'n' && !stop then "\n" else "")

/-- `echo` as a program. -/
def echoUtility (inv : Invocation) : Completion :=
  inv.finish 0 (optionEcho false inv.args) ""

/-- The message for a numeric argument of `printf` the program complains about. -/
def printfComplaint (a : String) : NumberFault → String
  | .notNumeric => quoteName a ++ ": expected a numeric value"
  | .notComplete => quoteName a ++ ": value not completely converted"
  | .outOfRange => quoteName a ++ ": Numerical result out of range"

/-- `printf` as a program. -/
def printfUtility (inv : Invocation) : Completion :=
  match inv.args with
  | [] => inv.finish 1 "" (missingOperand inv)
  | format :: args =>
    let run := formatAll .utility format args
    let err := String.join (run.complaints.map fun (_, c) => match c with
      | .number a f => inv.message (printfComplaint a f)
      | .escape m => inv.message m)
    match run.fatal with
    | some f =>
      let d := match f with
        | .missing d => d
        | .invalid d => d
      inv.finish 1 run.out (err ++ inv.message (d ++ ": invalid conversion specification"))
    | none =>
      let warn := match run.unused with
        | a :: _ => inv.message ("warning: ignoring excess arguments, starting with " ++ quoteName a)
        | [] => ""
      inv.finish (if run.complaints.isEmpty then 0 else 1) run.out (err ++ warn)

/-- `test` and `[` as programs. -/
def testUtility (inv : Invocation) : Completion :=
  let look : FileLookup := fun p => (inv.tree.stat inv.cwd p).toOption
  let bracket := inv.name == "[" || inv.name.endsWith "/["
  if bracket && inv.args.getLast? != some "]" then inv.finish 2 "" (inv.message "missing \x27]\x27")
  else
    let args := if bracket then inv.args.dropLast else inv.args
    match evalCondition look args with
    | .ok v => inv.finish (if v then 0 else 1) "" ""
    | .error m => inv.finish 2 "" (inv.message m)

/-- `pwd` as a program: the working directory. Operands are ignored, with a warning. -/
def pwdUtility (inv : Invocation) : Completion :=
  let specs : List OptSpec := [
    { key := "L", short := some 'L', long := some "logical" },
    { key := "P", short := some 'P', long := some "physical" },
    { key := "help", long := some "help" },
    { key := "version", long := some "version" }]
  match parseOptions specs false inv.args with
  | .error e => inv.optionFailure 1 e
  | .ok (_, operands) =>
    let warn := if operands.isEmpty then "" else inv.message "ignoring non-option arguments"
    inv.finish 0 ("/" ++ "/".intercalate inv.cwd ++ "\n") warn

/-- `printenv`: the environment, or the values of the variables named. -/
def printenv (inv : Invocation) : Completion :=
  match inv.args with
  | [] => inv.finish 0 (String.join (inv.env.map fun (k, v) => k ++ "=" ++ v ++ "\n")) ""
  | names =>
    let found := names.filterMap fun n => (inv.env.find? (·.1 == n)).map (·.2)
    inv.finish (if found.length == names.length then 0 else 1)
      (String.join (found.map (· ++ "\n"))) ""

/-- Whether a text is a time interval of `sleep`: a number that is not negative, as the C
library reads one, with at most a one-letter unit `s`, `m`, `h` or `d`. -/
def isInterval (s : String) : Bool :=
  match scanFloat s.toList with
  | some (v, rest, _) =>
    let unitOk := match rest with
      | [] => true
      | [u] => "smhd".toList.contains u
      | _ => false
    let nonNegative := match v with
      | .finite b => !b.negative || b.isZero
      | .infinite neg => !neg
      | .nan _ => false
    unitOk && nonNegative
  | none => false

/-- The nanoseconds of a time interval of `sleep`, rounded up; its unit letter is a minute, an
hour or a day, and seconds without one. An infinite interval waits without end. -/
def intervalNanos (s : String) : Nat :=
  match scanFloat s.toList with
  | some (.finite b, rest, _) =>
    let unit : Nat := match rest with
      | ['m'] => 60
      | ['h'] => 3600
      | ['d'] => 86400
      | _ => 1
    let scaled := b.mantissa * unit * 1000000000
    if b.exponent ≥ 0 then scaled * Nat.pow 2 b.exponent.toNat
    else (scaled + Nat.pow 2 b.exponent.natAbs - 1) / Nat.pow 2 b.exponent.natAbs
  | some (.infinite _, _, _) => foreverNanos
  | _ => 0

/-- `sleep`: checks its options and intervals, then waits for their sum. Every word that starts
with a dash is an option, so negative numbers are refused as options. -/
def sleepUtility (inv : Invocation) : Completion :=
  let specs : List OptSpec := [
    { key := "help", long := some "help" },
    { key := "version", long := some "version" }]
  match parseOptions specs false inv.args with
  | .error e => inv.optionFailure 1 e
  | .ok (_, []) => inv.finish 1 "" (missingOperand inv)
  | .ok (_, intervals) =>
    let bad := intervals.filter (!isInterval ·)
    if bad.isEmpty then { inv.finish 0 "" "" with waited := (intervals.map intervalNanos).foldl (· + ·) 0 }
    else inv.finish 1 "" (String.join (bad.map fun b => inv.message ("invalid time interval " ++ quoteName b)) ++ inv.tryHelp)

end Regress.Shell
