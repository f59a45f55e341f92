import Regress.Path

/-!
# Groups of cases

A group is a directory of cases named by a path, absolute or relative to the corpus root. Its
`key` is a name for it that can stand as a single path element: the cleaned path without outer
slashes, with each `../` written `up_` and each other slash written `_`; the root group is
`root`. Its `label` is the path as given, with `.` for the empty path.
-/

namespace Regress

/-- A group of cases: a directory given by a path as the user wrote it. -/
structure Group where
  path : String
  deriving Repr, DecidableEq, Inhabited

namespace Group

/-- The group's directory: an absolute path cleaned, a relative one under the corpus root. -/
def dir (g : Group) (root : String) : String :=
  if Path.isAbs g.path then Path.clean g.path else Path.join [root, g.path]

/-- Writes each `../` as `up_`, left to right. -/
def upLevels : List Char → List Char
  | '.' :: '.' :: '/' :: rest => 'u' :: 'p' :: '_' :: upLevels rest
  | c :: rest => c :: upLevels rest
  | [] => []

/-- Writes each slash as `_`. -/
def flatten (cs : List Char) : List Char :=
  cs.map fun c => if c = '/' then '_' else c

/-- The characters of a path without its leading and trailing slashes. -/
def trimSlashes (cs : List Char) : List Char :=
  ((cs.dropWhile (· = '/')).reverse.dropWhile (· = '/')).reverse

/-- A name for the group that is one path element: `root` for the corpus root itself. -/
def key (g : Group) : String :=
  let p := trimSlashes (Path.clean g.path).toList
  if p.isEmpty || p = ['.'] then "root"
  else String.ofList (flatten (upLevels p))

/-- The group as shown to the user: its path, or `.` when the path is empty. -/
def label (g : Group) : String :=
  if g.path.isEmpty then "." else g.path

end Group

/-- The groups of a list of paths, in order. -/
def Group.ofPaths (paths : List String) : List Group :=
  paths.map Group.mk

end Regress
