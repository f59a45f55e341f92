import Regress.Toolchain
import Regress.Case

/-!
# A scripted toolchain

A toolchain that needs no real tools: the programs of a corpus say themselves how their tools
behave, by directive lines at their start. It tries out a corpus layout and the reports of a
run without a compiler or an interpreter.

* Compiling copies the source to the artifact, `<dir>/<source name without its extension>`
  followed by the artifact extension. A source whose text starts with `#nocompile` is refused
  with status 1.
* Interpreting reads the directive lines at the start of the artifact: a line starting with a
  number sign, `exit` and a blank sets the exit status to the number after it, one starting
  with `#noinput` keeps the input back, and one starting with `#fail` makes the interpreter
  fail to start. The first other line ends the directives. The interpreter then writes the
  input, unless it is kept back, and the rest of the artifact.

Every call is logged, in order.
-/

namespace Regress

/-- The calls made to a scripted toolchain: each compilation's source and directory, and each
interpreted artifact. -/
structure CallLog where
  compiles : List (String × String) := []
  runs : List String := []
  deriving Repr, DecidableEq, Inhabited

namespace Scripted

/-- The blanks that formatted reading skips: the ASCII controls from tab to carriage return,
the space, and the Unicode spaces and line separators. -/
def isScanSpace (c : Char) : Bool :=
  let v := c.toNat
  (0x09 ≤ v && v ≤ 0x0D) || v == 0x20 || v == 0x85 || v == 0xA0 || v == 0x1680 ||
    (0x2000 ≤ v && v ≤ 0x200A) || v == 0x2028 || v == 0x2029 || v == 0x202F || v == 0x205F ||
    v == 0x3000

/-- The number after the word of an exit directive, read as formatted input reads `%d` after a
blank: at least one blank must follow the word, blanks are skipped, and then an optional sign
and decimal digits, up to the first character that is not a digit. There is none when no digit
comes or when the number does not fit in 64 bits. -/
def scanInt (cs : List Char) : Option Int :=
  match cs with
  | c :: _ =>
    if !isScanSpace c then none
    else
      let cs := cs.dropWhile isScanSpace
      let (negative, cs) := match cs with
        | '-' :: r => (true, r)
        | '+' :: r => (false, r)
        | r => (false, r)
      let digits := cs.takeWhile Char.isDigit
      if digits.isEmpty then none
      else
        let n : Int := digits.foldl (fun a c => a * 10 + (c.toNat - '0'.toNat : Nat)) 0
        let v := if negative then -n else n
        let bound : Int := Int.ofNat (Nat.pow 2 63)
        if v < -bound || v ≥ bound then none else some v
  | [] => none

/-- What the directive lines at the start of an artifact ask for. -/
structure Directives where
  exitCode : Int := 0
  withInput : Bool := true
  fails : Bool := false
  deriving Repr, DecidableEq, Inhabited

/-- The word of the directive that sets the exit status: a number sign and `exit`. -/
def exitWord : String :=
  "\x23exit"

/-- Reads the directive lines onto `d`: what they ask for and the lines after them. A directive
is known by how its line starts: `#fail`, `#noinput`, or the exit word and a blank; `#fail` ends the
reading at once. -/
def readDirectives : List String → Directives → Directives × List String
  | [], d => (d, [])
  | line :: rest, d =>
    if line.startsWith "#fail" then ({ d with fails := true }, rest)
    else if line.startsWith "#noinput" then readDirectives rest { d with withInput := false }
    else if line.startsWith (exitWord ++ " ") then
      readDirectives rest { d with exitCode := (scanInt (line.toList.drop exitWord.length)).getD d.exitCode }
    else (d, line :: rest)

/-- Runs an artifact with the given text on the given input, writing to `transcript`. Copying
a directory's input fails on the transcript, with nothing written. -/
def perform (text : String) (input : Stdin) (transcript : String) : Interpretation :=
  let (d, body) := readDirectives (text.splitOn "\n") {}
  if d.fails then ⟨-1, some "launch interpreter: simulated failure", ""⟩
  else if !d.withInput then ⟨d.exitCode, none, "\n".intercalate body⟩
  else
    match input with
    | .text t => ⟨d.exitCode, none, t ++ "\n".intercalate body⟩
    | .directory => ⟨-1, some ("write " ++ transcript ++ ": copy_file_range: is a directory"), ""⟩

/-- The text without the suffix, if it ends with it. -/
def dropSuffix (s suffix : String) : String :=
  if s.endsWith suffix then String.ofList (s.toList.take (s.length - suffix.length)) else s

/-- The scripted toolchain for a corpus with the given layout. -/
def toolchain (layout : Layout) : Toolchain CallLog where
  compile _ source dir := do
    Session.updateTools fun l => { l with compiles := l.compiles ++ [(source, dir)] }
    let s ← get
    -- the scripted compiler takes no time
    let failure (m : String) : Option String × Nat := (some ("compile " ++ source ++ ": " ++ m), 0)
    match s.tree.readFile s.cwd source with
    | .error e => pure (failure e.message)
    | .ok text =>
      if text.startsWith "#nocompile" then pure (failure "exit status 1")
      else
        let artifact :=
          Path.join [dir, dropSuffix (Path.base source) layout.sourceExt ++ layout.artifactExt]
        match s.tree.writeFile s.cwd artifact text with
        | .error e => pure (failure e.message)
        | .ok t => do
          Session.setTree t
          pure (none, 0)
  interpret _ artifact input transcript := do
    Session.updateTools fun l => { l with runs := l.runs ++ [artifact] }
    let s ← get
    match s.tree.readFile s.cwd artifact with
    | .error e => pure ⟨-1, some ("launch interpreter: " ++ e.message), ""⟩
    | .ok text => pure (perform text input transcript)

end Scripted

end Regress
