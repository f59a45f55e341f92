/-!
# Signals

The signals of the system by number: their names, their descriptions, and what a process does
with one it neither catches nor ignores. Most end the process; `CHLD`, `CONT`, `URG` and `WINCH`
are ignored, and the four stop signals stop it.
-/

namespace Regress.Shell

/-- What a process does with a signal it has not arranged to handle. -/
inductive SignalAction where
  | terminate
  | ignore
  | stop
  deriving Repr, DecidableEq, Inhabited

/-- A signal of the system: its name without `SIG`, its description and its default action. -/
structure SignalInfo where
  name : String
  description : String
  action : SignalAction := .terminate
  deriving Repr, Inhabited

/-- The signals 1 to 31, in order. -/
def signalTable : List SignalInfo := [
  { name := "HUP", description := "Hangup" },
  { name := "INT", description := "Interrupt" },
  { name := "QUIT", description := "Quit" },
  { name := "ILL", description := "Illegal instruction" },
  { name := "TRAP", description := "Trace/breakpoint trap" },
  { name := "ABRT", description := "Aborted" },
  { name := "BUS", description := "Bus error" },
  { name := "FPE", description := "Floating point exception" },
  { name := "KILL", description := "Killed" },
  { name := "USR1", description := "User defined signal 1" },
  { name := "SEGV", description := "Segmentation fault" },
  { name := "USR2", description := "User defined signal 2" },
  { name := "PIPE", description := "Broken pipe" },
  { name := "ALRM", description := "Alarm clock" },
  { name := "TERM", description := "Terminated" },
  { name := "STKFLT", description := "Stack fault" },
  { name := "CHLD", description := "Child exited", action := .ignore },
  { name := "CONT", description := "Continued", action := .ignore },
  { name := "STOP", description := "Stopped (signal)", action := .stop },
  { name := "TSTP", description := "Stopped", action := .stop },
  { name := "TTIN", description := "Stopped (tty input)", action := .stop },
  { name := "TTOU", description := "Stopped (tty output)", action := .stop },
  { name := "URG", description := "Urgent I/O condition", action := .ignore },
  { name := "XCPU", description := "CPU time limit exceeded" },
  { name := "XFSZ", description := "File size limit exceeded" },
  { name := "VTALRM", description := "Virtual timer expired" },
  { name := "PROF", description := "Profiling timer expired" },
  { name := "WINCH", description := "Window changed", action := .ignore },
  { name := "IO", description := "I/O possible" },
  { name := "PWR", description := "Power failure" },
  { name := "SYS", description := "Bad system call" }]

/-- The number past the last signal. -/
def signalLimit : Nat := 65

/-- A signal by number, if it is one of the table. -/
def signalInfo? (n : Nat) : Option SignalInfo :=
  if n == 0 then none else signalTable[n - 1]?

/-- The description of a signal, as messages about a process it ended give it. -/
def signalDescription (n : Nat) : String :=
  match signalInfo? n with
  | some i => i.description
  | none => "Real-time signal " ++ toString (n - 34)

/-- What a signal does by default. -/
def signalAction (n : Nat) : SignalAction :=
  match signalInfo? n with
  | some i => i.action
  | none => .terminate

/-- The name of a real-time signal: `RTMIN` (34) and the fifteen after it counted up from it,
then the rest counted down from `RTMAX` (64). The C library keeps 32 and 33 for itself. -/
def realTimeName (n : Nat) : Option String :=
  if n == 34 then some "RTMIN"
  else if 34 < n && n < 50 then some ("RTMIN+" ++ toString (n - 34))
  else if 50 ≤ n && n < 64 then some ("RTMAX-" ++ toString (64 - n))
  else if n == 64 then some "RTMAX"
  else none

/-- The name a shell gives a signal: the table's name or a real-time signal's. The POSIX shell
knows no name for signal 16 and writes its number. -/
def shellSignalName (bash : Bool) (n : Nat) : Option String :=
  if n == 16 && !bash then none
  else match signalInfo? n with
    | some i => some i.name
    | none => realTimeName n

/-- The number of a signal by the shell's name for it, compared without regard to case and
without `SIG`; `none` for a name that is no signal. -/
def signalByName (bash : Bool) (s : String) : Option Nat :=
  let up := s.toUpper
  (List.range signalLimit).find? fun n => n != 0 && shellSignalName bash n == some up

end Regress.Shell
