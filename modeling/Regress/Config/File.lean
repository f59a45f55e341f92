import Regress.Config.Basic
import Regress.Schema
import Regress.FileTree
import Regress.Yaml.JsonForm

/-!
# The configuration file

The configuration file is YAML. Its first document must be a mapping of plain values, or
empty. It is checked in three steps, each with its own message:

1. It must read as YAML.
2. It must have a JSON form (see `Yaml.Value.toJson`): no NaN or infinity, no key that cannot
   name a member, no timestamp too far from UTC.
3. It must satisfy `fileSchema`: the known keys only, each of its type. Paths and commands are
   non-empty strings, file extensions start with a dot, the two switches are booleans, and the
   groups are a non-empty list of non-empty strings.

A file that passes sets the settings it names and leaves the others. A duration that cannot be
read is refused only then, with `timeout: ` and the reason.

`loadFile` reads the file. A missing file is no failure unless the file is required, and every
failure of the file's content names the file.
-/

namespace Regress

/-- Where the schema lives, as messages name it. -/
def fileSchemaUrl : String :=
  "file:///config.schema.json#"

/-- A non-empty string. -/
def nonEmptyText : Schema :=
  { type := some "string", minLength := some 1 }

/-- A file extension: a string that starts with a dot. -/
def extensionText : Schema :=
  { type := some "string", pattern := some "^\\." }

/-- The schema of the configuration file. -/
def fileSchema : Schema where
  type := some "object"
  closed := true
  properties := [
    ("corpus_root", nonEmptyText),
    ("groups", { type := some "array", minItems := some 1, items := some nonEmptyText }),
    ("compiler", nonEmptyText),
    ("interpreter", nonEmptyText),
    ("output_dir", nonEmptyText),
    ("expected_dir", { type := some "string" }),
    ("source_ext", extensionText),
    ("input_ext", extensionText),
    ("log_ext", extensionText),
    ("artifact_ext", extensionText),
    ("stop_on_first_failure", { type := some "boolean" }),
    ("scope_artifacts", { type := some "boolean" }),
    ("timeout", nonEmptyText)]

/-- The settings a configuration file gives; `none` or an empty list where it gives none. -/
structure FileSettings where
  corpusRoot : Option String := none
  groups : List String := []
  compiler : Option String := none
  interpreter : Option String := none
  outputDir : Option String := none
  expectedDir : Option String := none
  sourceExt : Option String := none
  inputExt : Option String := none
  logExt : Option String := none
  artifactExt : Option String := none
  stopOnFirstFailure : Option Bool := none
  scopeArtifacts : Option Bool := none
  timeout : Option String := none
  deriving Repr, Inhabited

namespace FileSettings

/-- The settings of a document's top mapping. A key that a merged mapping names twice takes
its first value, as a key merged in earlier wins over a later one. -/
def ofNode (n : Yaml.Node) (fuel : Nat) : FileSettings :=
  let fields := n.fields fuel
  let field (k : String) : Option Yaml.Node := (fields.find? (·.1 == k)).map (·.2)
  let text (k : String) : Option String := (field k).bind (Yaml.Node.stringField fuel)
  let flag (k : String) : Option Bool := (field k).bind (Yaml.Node.boolField fuel)
  { corpusRoot := text "corpus_root"
    groups := ((field "groups").map (Yaml.Node.stringsField fuel)).getD []
    compiler := text "compiler"
    interpreter := text "interpreter"
    outputDir := text "output_dir"
    expectedDir := text "expected_dir"
    sourceExt := text "source_ext"
    inputExt := text "input_ext"
    logExt := text "log_ext"
    artifactExt := text "artifact_ext"
    stopOnFirstFailure := flag "stop_on_first_failure"
    scopeArtifacts := flag "scope_artifacts"
    timeout := text "timeout" }

/-- The configuration with the settings applied; a timeout that is not a duration fails. -/
def applyTo (s : FileSettings) (c : Config) : Except Failure Config := do
  let timeout ← match s.timeout with
    | none => pure c.timeout
    | some t =>
      match Duration.parse t with
      | .ok d => pure d
      | .error m => throw (Failure.config ("timeout: " ++ m))
  pure { c with
    corpusRoot := s.corpusRoot.getD c.corpusRoot
    compiler := s.compiler.getD c.compiler
    interpreter := s.interpreter.getD c.interpreter
    outputDir := s.outputDir.getD c.outputDir
    expectedDir := s.expectedDir.getD c.expectedDir
    sourceExt := s.sourceExt.getD c.sourceExt
    inputExt := s.inputExt.getD c.inputExt
    logExt := s.logExt.getD c.logExt
    artifactExt := s.artifactExt.getD c.artifactExt
    groups := if s.groups.isEmpty then c.groups else s.groups
    stopOnFirstFailure := s.stopOnFirstFailure.getD c.stopOnFirstFailure
    scopeArtifacts := s.scopeArtifacts.getD c.scopeArtifacts
    timeout := timeout }

end FileSettings

/-- Checks the text of a configuration file: its first document's tree when it passes, `none`
when it has none. -/
def validateFile (text : String) : Except Failure (Option Yaml.Node) :=
  match Yaml.load text with
  | .error (.failed m) => .error (Failure.config ("parse config file: " ++ m))
  | .error (.crashed m) => .error ⟨.crash, m⟩
  | .ok (node, v) =>
    let v : Yaml.Value := match v with
      | .scalar .null => .map true []
      | v => v
    match v.toJson (Yaml.decodeFuel text) with
    | .error p => .error (Failure.config ("config file is not a mapping of plain values: " ++ p))
    | .ok j =>
      match fileSchema.validate fileSchemaUrl j with
      | .error m => .error (Failure.config m)
      | .ok () => .ok node

/-- The reports of reading a document's top mapping into the settings: each key that names a
setting an earlier key of the mapping itself named already. Keys written alike are refused
before, so only keys that differ in writing but not in text get here, such as an alias to a
setting's name. -/
def fieldReports (n : Yaml.Node) (fuel : Nat) : List String :=
  match n with
  | .mapping _ entries _ =>
    let names := fileSchema.properties.map (·.1)
    let keys := entries.filterMap fun (k, _) =>
      if k.isMerge then none
      else (Yaml.Node.stringField fuel k).bind fun name =>
        if names.contains name then some (name, k.line) else none
    (keys.zipIdx.filter fun ((name, _), i) => (keys.take i).any (·.1 == name)).map
      fun ((name, line), _) =>
        "line " ++ toString line ++ ": field " ++ name ++ " already set in type config.fileConfig"
  | _ => []

/-- The settings of a configuration file's text, once it passes the checks: the failure of
the checks, or the reports of reading the settings, or the settings. -/
def fileSettings (text : String) : Except Failure (Except (List String) FileSettings) :=
  match validateFile text with
  | .error f => .error f
  | .ok none => .ok (.ok {})
  | .ok (some n) =>
    let fuel := Yaml.decodeFuel text
    match fieldReports n fuel with
    | [] => .ok (.ok (FileSettings.ofNode n fuel))
    | reports => .ok (.error reports)

/-- Applies the configuration file at `path`. A missing file is skipped unless it is required;
a failure of its checks names it in front, and a failure to read its settings after. A crash
is passed on as it is. -/
def Config.loadFile (c : Config) (t : FileTree) (cwd : List String) (path : String)
    (required : Bool) : Except Failure Config :=
  match t.readFile cwd path with
  | .error e =>
    if !required && e.errno == .noEntry then .ok c
    else .error (Failure.config ("read config file: " ++ e.message))
  | .ok text =>
    match fileSettings text with
    | .error f => .error (if f.kind == .crash then f else Failure.wrap path f)
    | .ok (.error reports) =>
      .error (Failure.config ("parse config file " ++ path ++ ": yaml: unmarshal errors:\n  " ++
        "\n  ".intercalate reports))
    | .ok (.ok s) => s.applyTo c

end Regress
