import Regress.Outcome

/-!
# The console report

The console reports a run line by line, the way a build log is read: the case about to run,
then its verdict, then the tally.

* A case starts with `Evaluating <id>`.
* A case ends with `OK`, or with `ERROR!` and what failed: the interpreter's status, or a
  difference of the transcripts, each with the error behind it in parentheses when there is
  one. A compiler error comes first, as a `WARNING!`.
* The tally says how many cases ran and passed; an empty run is pointed out first, and the
  failed cases follow it with their verdicts.
-/

namespace Regress.Console

/-- The line of a case about to run. -/
def started (c : Case) : String :=
  "Evaluating " ++ c.id ++ "\n"

/-- The error behind a verdict, in parentheses after a space, or nothing. -/
def detail : Option String → String
  | some m => " (" ++ m ++ ")"
  | none => ""

/-- The lines of a finished case: the compiler's warning, if any, and the verdict. -/
def finished (r : CaseResult) : String :=
  let warning := match r.compileError with
    | some e => "WARNING! " ++ e ++ "\n"
    | none => ""
  let verdict := match r.verdict with
    | .success => "OK\n"
    | .interpreterFailure =>
      "ERROR! Interpreter returned " ++ toString r.exitCode ++ detail r.error ++ "\n"
    | .outputMismatch => "ERROR! Output differs from expected" ++ detail r.error ++ "\n"
    | .unknown _ => ""
  warning ++ verdict

/-- The `Failed:` section of a tally: the failed cases with their verdicts, in the order they
ran; nothing when no case failed. -/
def failedSection (o : Outcome) : String :=
  if o.failed.isEmpty then ""
  else
    "Failed: " ++ toString o.failed.length ++ "\n" ++
      String.join (o.failed.map fun r => "  " ++ r.case.id ++ ": " ++ r.verdict.label ++ "\n")

/-- The tally of a run that went to the end, with the failed cases in the order they ran. -/
def summary (o : Outcome) : String :=
  let empty := if o.total = 0 then "No tests to execute\n" else ""
  let tally := "Total tests: " ++ toString o.total ++ ", successful: " ++ toString o.succeeded ++ "\n"
  empty ++ tally ++ failedSection o

end Regress.Console
