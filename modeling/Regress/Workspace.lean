import Regress.FileTree
import Regress.Failure
import Regress.Group

/-!
# The workspace

A run writes its actual transcripts into the output directory and its artifacts either into the
working directory or, when artifacts are scoped, into one directory per group under the artifact
root, named by the group's key. `Workspace.prepare` creates these directories with their missing
parents, the output directory first and then the groups' in order, and stops at the first that
cannot be created; what it made before that stays. It only ever adds directories, and a second
call changes nothing.
-/

namespace Regress

/-- Where a run writes: the output directory, the artifact root, and whether artifacts are
kept apart by group. -/
structure Workspace where
  outputDir : String
  artifactRoot : String
  byGroup : Bool
  deriving Repr, DecidableEq, Inhabited

namespace Workspace

/-- The directory the artifacts of a group go to. -/
def artifactDir (w : Workspace) (g : Group) : String :=
  if w.byGroup then Path.join [w.artifactRoot, g.key] else "."

/-- Creates `dir` and its missing parents: the tree with what was made, and the failure, if
any. -/
def ensure (t : FileTree) (cwd : List String) (dir : String) : FileTree × Option Failure :=
  match t.mkdirAllKeeping cwd dir with
  | (t', none) => (t', none)
  | (t', some e) => (t', some (Failure.workspace ("create " ++ dir ++ ": " ++ e.message)))

/-- The directories a run needs, in the order they are created. -/
def directories (w : Workspace) (groups : List Group) : List String :=
  w.outputDir :: if w.byGroup then groups.map w.artifactDir else []

/-- Creates the directories in order, stopping at the first failure. -/
def ensureAll (t : FileTree) (cwd : List String) : List String → FileTree × Option Failure
  | [] => (t, none)
  | dir :: rest =>
    match ensure t cwd dir with
    | (t', none) => ensureAll t' cwd rest
    | (t', some f) => (t', some f)

/-- Creates every directory the run needs, stopping at the first failure: the tree with every
directory made, and the failure, if any. -/
def prepare (w : Workspace) (t : FileTree) (cwd : List String) (groups : List Group) :
    FileTree × Option Failure :=
  ensureAll t cwd (w.directories groups)

end Workspace

end Regress
