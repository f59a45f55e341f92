import Regress.Case

/-!
# Verdicts and the outcome of a run

Each case ends with a verdict; only `success` passes. An `Outcome` counts the cases recorded,
the ones that passed, and keeps the failing results in the order they were recorded; a run that
stopped at a failure is marked aborted. Its exit code is 255 for an aborted run, 0 when at least
one case ran and all passed, and 1 otherwise.
-/

namespace Regress

/-- How a case ended. Codes other than the three verdicts name no verdict; they can only be
recorded from outside a run. -/
inductive Verdict where
  | success
  | outputMismatch
  | interpreterFailure
  | unknown (code : Int)
  deriving Repr, DecidableEq, Inhabited

namespace Verdict

/-- The verdict of a numeric code: 0, 1 and 2 in the order above. -/
def ofCode (n : Int) : Verdict :=
  if n = 0 then .success
  else if n = 1 then .outputMismatch
  else if n = 2 then .interpreterFailure
  else .unknown n

/-- The verdict's name in reports. -/
def label : Verdict → String
  | .success => "success"
  | .outputMismatch => "output mismatch"
  | .interpreterFailure => "interpreter failure"
  | .unknown _ => "unknown"

end Verdict

/-- What running one case gave: the verdict, the interpreter's exit status (-1 when there was
none), the error behind a failing verdict, and the compiler's error, which decides nothing. -/
structure CaseResult where
  case : Case
  verdict : Verdict
  exitCode : Int
  error : Option String
  compileError : Option String
  deriving Repr, DecidableEq, Inhabited

/-- A result passes exactly when its verdict is success. -/
def CaseResult.passed (r : CaseResult) : Bool :=
  r.verdict == .success

/-- The tally of a run. -/
structure Outcome where
  total : Nat
  succeeded : Nat
  aborted : Bool
  failed : List CaseResult
  deriving Repr, DecidableEq, Inhabited

namespace Outcome

/-- The tally before any case. -/
def empty : Outcome :=
  ⟨0, 0, false, []⟩

/-- Counts one more result: a passing one as a success, a failing one onto `failed`. -/
def record (o : Outcome) (r : CaseResult) : Outcome :=
  if r.passed then { o with total := o.total + 1, succeeded := o.succeeded + 1 }
  else { o with total := o.total + 1, failed := o.failed ++ [r] }

/-- Marks the run as stopped at a failure. -/
def abort (o : Outcome) : Outcome :=
  { o with aborted := true }

/-- The exit status of a run: 255 when aborted, 0 when some case ran and all passed, else 1. -/
def exitCode (o : Outcome) : Nat :=
  if o.aborted then 255
  else if o.total > 0 ∧ o.succeeded = o.total then 0
  else 1

end Outcome

end Regress
