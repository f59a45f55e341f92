/-!
# Failures

A failure has a kind and a message. The kinds the program tells apart are a bad configuration,
a corpus that cannot be read, a workspace that cannot be set up, and a run that ended with a
non-zero status, and a crash, a runtime error that nothing handles; anything else is `other`. Context is added in front of the message
(`Failure.wrap`) and never changes the kind. The process exit status of a failure is 2 for a
bad configuration, the status itself for a finished run, 2 for a crash, which ends the process
the way the runtime ends it after a panic, and 1 otherwise; no failure gives 0.
-/

namespace Regress

/-- What went wrong, as far as the exit status and the report care. -/
inductive FailureKind where
  | config
  | discovery
  | workspace
  | exit (code : Int)
  | crash
  | other
  deriving Repr, DecidableEq, Inhabited

/-- A failure: its kind and its message. -/
structure Failure where
  kind : FailureKind
  message : String
  deriving Repr, DecidableEq, Inhabited

namespace Failure

/-- The message that heads every failure of a kind. -/
def headline : FailureKind → String
  | .config => "invalid configuration"
  | .discovery => "discovery failed"
  | .workspace => "workspace setup failed"
  | .exit code => "exit status " ++ toString code
  | .crash => ""
  | .other => ""

/-- The bare failure of a kind. -/
def sentinel (kind : FailureKind) : Failure :=
  ⟨kind, headline kind⟩

/-- A failure of a kind with a detail after its headline. -/
def withDetail (kind : FailureKind) (detail : String) : Failure :=
  ⟨kind, headline kind ++ ": " ++ detail⟩

/-- A bad configuration. -/
def config (detail : String) : Failure :=
  withDetail .config detail

/-- A corpus that cannot be read. -/
def discovery (detail : String) : Failure :=
  withDetail .discovery detail

/-- A workspace that cannot be set up. -/
def workspace (detail : String) : Failure :=
  withDetail .workspace detail

/-- Any other failure, with its whole message. -/
def other (message : String) : Failure :=
  ⟨.other, message⟩

/-- The same failure with context in front of its message. -/
def wrap (context : String) (f : Failure) : Failure :=
  { f with message := context ++ ": " ++ f.message }

/-- The process exit status for the result of a command: 0 without a failure. -/
def exitStatus : Option Failure → Int
  | none => 0
  | some ⟨.exit code, _⟩ => code
  | some ⟨.config, _⟩ => 2
  | some ⟨.crash, _⟩ => 2
  | some _ => 1

/-- Whether the failure has been reported already, so that no message is due: a finished run's
status. -/
def silent : Option Failure → Bool
  | some ⟨.exit _, _⟩ => true
  | _ => false

end Failure

end Regress
