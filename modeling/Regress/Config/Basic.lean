import Regress.Duration
import Regress.Failure
import Regress.Case
import Regress.Path

/-!
# Configuration

A run is configured by the corpus root and its groups, the compiler and interpreter to call, the
output directory, the layout of a corpus (expected-output directory and file extensions),
whether to stop at the first failure, whether to keep artifacts apart by group, and a timeout
per case (zero for none). Command-line `Flags` are applied last: each one that is set replaces
the configured value, `--keep-going` turns stopping off and `--scope-artifacts` turns scoping on,
and only a positive timeout counts. `Config.validate` then refuses empty required values and a
negative timeout, in a fixed order.

Tool paths with a slash in them are made absolute against the working directory, so that they
still name the same file when a tool runs elsewhere; a bare name is left for a search of the
system's program directories.
-/

namespace Regress

/-- The options given on the command line. Empty texts, empty lists, false and zero mean unset. -/
structure Flags where
  configFile : String := ""
  envFile : String := ""
  corpusRoot : String := ""
  groups : List String := []
  compiler : String := ""
  interpreter : String := ""
  outputDir : String := ""
  nameFilter : String := ""
  keepGoing : Bool := false
  scopeArtifacts : Bool := false
  timeout : Duration := ⟨0⟩
  progress : Bool := false
  noColor : Bool := false
  deriving Repr, DecidableEq, Inhabited

/-- Everything a run is configured by. -/
structure Config where
  corpusRoot : String
  groups : List String
  compiler : String
  interpreter : String
  outputDir : String
  expectedDir : String
  sourceExt : String
  inputExt : String
  logExt : String
  artifactExt : String
  stopOnFirstFailure : Bool
  scopeArtifacts : Bool
  timeout : Duration
  flags : Flags
  deriving Repr, DecidableEq, Inhabited

namespace Config

/-- The configuration before any file, variable or flag. -/
def defaults : Config where
  corpusRoot := "../../Lama/regression"
  groups := ["."]
  compiler := "lamac"
  interpreter := "./build/interpreter"
  outputDir := "./logs"
  expectedDir := "orig"
  sourceExt := ".lama"
  inputExt := ".input"
  logExt := ".log"
  artifactExt := ".bc"
  stopOnFirstFailure := true
  scopeArtifacts := false
  timeout := ⟨0⟩
  flags := {}

/-- The configuration file read when none is named. -/
def defaultFile : String := "ltr.yaml"

/-- The variables file read when none is named. -/
def defaultEnvFile : String := ".env"

/-- The text itself unless it is empty. -/
def override (current given : String) : String :=
  if given.isEmpty then current else given

/-- Applies the command-line flags over the configuration. -/
def apply (c : Config) (f : Flags) : Config :=
  { c with
    flags := f
    corpusRoot := override c.corpusRoot f.corpusRoot
    groups := if f.groups.isEmpty then c.groups else f.groups
    compiler := override c.compiler f.compiler
    interpreter := override c.interpreter f.interpreter
    outputDir := override c.outputDir f.outputDir
    stopOnFirstFailure := if f.keepGoing then false else c.stopOnFirstFailure
    scopeArtifacts := c.scopeArtifacts || f.scopeArtifacts
    timeout := if f.timeout.nanos > 0 then f.timeout else c.timeout }

/-- The first thing wrong with the configuration, if any. -/
def problem (c : Config) : Option String :=
  if c.corpusRoot.isEmpty then some "corpus root is empty"
  else if c.groups.isEmpty then some "no groups configured"
  else if c.compiler.isEmpty then some "compiler is empty"
  else if c.interpreter.isEmpty then some "interpreter is empty"
  else if c.outputDir.isEmpty then some "output dir is empty"
  else if c.sourceExt.isEmpty then some "source extension is empty"
  else if c.timeout.nanos < 0 then some ("negative timeout " ++ c.timeout.render)
  else none

/-- Refuses a configuration that cannot drive a run. -/
def validate (c : Config) : Except Failure Unit :=
  match c.problem with
  | some p => .error (Failure.config p)
  | none => .ok ()

/-- The corpus layout the configuration gives. -/
def layout (c : Config) : Layout :=
  { sourceExt := c.sourceExt, inputExt := c.inputExt, logExt := c.logExt
    artifactExt := c.artifactExt, expectedDir := c.expectedDir }

/-- The configured groups. -/
def groupList (c : Config) : List Group :=
  Group.ofPaths c.groups

/-- A tool path made absolute when it has a slash in it; a bare name is kept. -/
def toolPath (cwd p : String) : String :=
  if Path.isAbs p || !p.contains '/' then p else Path.absolute cwd p

/-- The compiler to call, seen from the working directory `cwd`. -/
def compilerPath (c : Config) (cwd : String) : String :=
  toolPath cwd c.compiler

/-- The interpreter to call, seen from the working directory `cwd`. -/
def interpreterPath (c : Config) (cwd : String) : String :=
  toolPath cwd c.interpreter

/-- The directory scoped artifacts go under. -/
def artifactRoot (c : Config) : String :=
  Path.join [c.outputDir, "artifacts"]

end Config

end Regress
