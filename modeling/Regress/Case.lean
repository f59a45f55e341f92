import Regress.Group

/-!
# Cases

A case is one program of the corpus with its files: the source and input beside it in the group
directory, the expected transcript in the group's expected-output directory, the actual
transcript in the output directory, and the directory the compiler works in, where it leaves the
artifact. `Case.resolve` lays these out from a `Layout`, which fixes the file extensions and the
name of the expected-output directory.
-/

namespace Regress

/-- File extensions and the expected-output directory of a corpus. -/
structure Layout where
  sourceExt : String
  inputExt : String
  logExt : String
  artifactExt : String
  expectedDir : String
  deriving Repr, DecidableEq, Inhabited

/-- One case and the paths of its files. -/
structure Case where
  group : Group
  name : String
  source : String
  input : String
  expected : String
  actual : String
  artifactDir : String
  artifactExt : String
  deriving Repr, DecidableEq, Inhabited

namespace Case

/-- The case `name` of `group` under the corpus root, with its actual transcript in `outputDir`
and its artifact in `artifactDir`. -/
def resolve (root : String) (group : Group) (name : String) (layout : Layout)
    (outputDir artifactDir : String) : Case :=
  let dir := group.dir root
  { group, name
    source := Path.join [dir, name ++ layout.sourceExt]
    input := Path.join [dir, name ++ layout.inputExt]
    expected := Path.join [dir, layout.expectedDir, name ++ layout.logExt]
    actual := Path.join [outputDir, name ++ layout.logExt]
    artifactDir
    artifactExt := layout.artifactExt }

/-- The path of the artifact the compiler leaves for the case. -/
def artifact (c : Case) : String :=
  Path.join [c.artifactDir, c.name ++ c.artifactExt]

/-- The case's name within the corpus: group label and case name. -/
def id (c : Case) : String :=
  Path.join [c.group.label, c.name]

end Case

end Regress
