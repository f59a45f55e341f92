import Regress.Session

/-!
# Toolchains

A run calls two tools for every case: a compiler that turns the case's source into an artifact
in a given directory, and an interpreter that runs the artifact on the case's input. A
`Toolchain` is the pair of calls, acting on a session.

The compiler answers with its error, if any; the error never decides the case by itself, since
a compiler that failed shows up as a missing or stale artifact. The interpreter reads the case's
input, `Stdin`, writes to the transcript file it is given, and answers with an
`Interpretation`. Both calls are told how many nanoseconds are left before the case's time
limit passes, if it has one, so a tool that honours the limit can refuse to start or be
stopped; the compiler answers also with the nanoseconds it took, which the interpreter then
does not have.
-/

namespace Regress

/-- What running the interpreter gave: its exit status (-1 when it gave none), the error that
kept it from giving one, and the text it wrote on standard output. -/
structure Interpretation where
  exitCode : Int
  error : Option String
  output : String
  deriving Repr, DecidableEq, Inhabited

/-- What an interpreter finds on standard input: the text of a file, or a directory, which
opens but cannot be read. -/
inductive Stdin where
  | text (s : String)
  | directory
  deriving Repr, DecidableEq, Inhabited

/-- The compiler and the interpreter of a run, acting on a session whose tools keep state of
type `σ`. `compile left source dir` compiles `source` into `dir`; `interpret left artifact
input transcript` runs `artifact` with `input` on standard input and its standard output going
to the file `transcript`. `left` is the time left, `none` when there is no limit. -/
structure Toolchain (σ : Type) where
  compile : (left : Option Nat) → (source dir : String) → SessionM σ (Option String × Nat)
  interpret : (left : Option Nat) → (artifact : String) → (input : Stdin) → (transcript : String) →
    SessionM σ Interpretation

end Regress
