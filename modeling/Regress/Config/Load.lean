import Regress.Config.File
import Regress.Config.DotEnv
import Regress.Environment

/-!
# Loading the configuration

The settings come in layers, each over the one before:

1. the defaults;
2. the configuration file: `ltr.yaml` if it is there, or the one the flags name, which must be;
3. the environment, after the environment file (`.env` unless the flags name another) has
   added what the environment lacks;
4. the flags.

The result must then pass `Config.validate`.

From the environment, `LTR_CORPUS_ROOT`, `LTR_COMPILER`, `LTR_INTERPRETER` and `LTR_OUTPUT_DIR`
count when they are not empty. `LTR_GROUPS` is a comma-separated list whose items are trimmed,
with the empty ones dropped; it counts when some item is left.
-/

namespace Regress

/-- The items of a comma-separated list, trimmed, without the empty ones. -/
def parseList (raw : String) : List String :=
  let trim (s : String) : String :=
    String.ofList ((s.toList.dropWhile DotEnv.isWhite).reverse.dropWhile DotEnv.isWhite).reverse
  ((raw.splitOn ",").map trim).filter (!·.isEmpty)

namespace Config

/-- The variable that sets the corpus root. -/
def envCorpusRoot : String := "LTR_CORPUS_ROOT"

/-- The variable that sets the groups. -/
def envGroups : String := "LTR_GROUPS"

/-- The variable that sets the compiler. -/
def envCompiler : String := "LTR_COMPILER"

/-- The variable that sets the interpreter. -/
def envInterpreter : String := "LTR_INTERPRETER"

/-- The variable that sets the output directory. -/
def envOutputDir : String := "LTR_OUTPUT_DIR"

/-- The configuration with the settings the environment gives. -/
def applyEnv (c : Config) (env : Environment) : Config :=
  let pick (name current : String) : String :=
    let v := env.getD name
    if v.isEmpty then current else v
  let groups := parseList (env.getD envGroups)
  { c with
    corpusRoot := pick envCorpusRoot c.corpusRoot
    compiler := pick envCompiler c.compiler
    interpreter := pick envInterpreter c.interpreter
    outputDir := pick envOutputDir c.outputDir
    groups := if groups.isEmpty then c.groups else groups }

/-- Loads the environment file `envFile` into the environment, if there is such a file, then
applies the environment. -/
def loadEnv (c : Config) (t : FileTree) (cwd : List String) (env : Environment)
    (envFile : String) : Except Failure (Config × Environment) := do
  let env ←
    if envFile.isEmpty then pure env
    else
      match t.readFile cwd envFile with
      | .error e =>
        if e.errno == .noEntry then pure env
        else throw (Failure.config ("load " ++ envFile ++ ": " ++ e.message))
      | .ok text =>
        match DotEnv.parse text with
        | .error m => throw (Failure.config ("load " ++ envFile ++ ": " ++ m))
        | .ok vars => pure (DotEnv.load env vars)
  pure (c.applyEnv env, env)

/-- The configuration for a run with the given flags, and the environment after loading the
environment file. -/
def load (flags : Flags) (t : FileTree) (cwd : List String) (env : Environment) :
    Except Failure (Config × Environment) := do
  let required := !flags.configFile.isEmpty
  let file := if required then flags.configFile else defaultFile
  let c ← defaults.loadFile t cwd file required
  let envFile := if flags.envFile.isEmpty then defaultEnvFile else flags.envFile
  let (c, env) ← c.loadEnv t cwd env envFile
  let c := c.apply flags
  c.validate
  pure (c, env)

end Config

end Regress
