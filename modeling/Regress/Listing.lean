import Regress.Case

/-!
# The case tree

A listing shows the cases of a run as a tree: a headline with the counts, then each group in
the order given, and under it the names of its cases in run order. A group that is given twice
is shown twice, each time with all the cases of that group. A group without cases shows a
placeholder. Branches are drawn with box-drawing characters, the last child of a node with a
corner.
-/

namespace Regress.Listing

/-- The branch drawn before a child: a corner for the last one, a tee for the others. -/
def branch (last : Bool) : String :=
  if last then "└── " else "├── "

/-- What stands before the children of a node: blank under the last node, a rule otherwise. -/
def indent (last : Bool) : String :=
  if last then "    " else "│   "

/-- The lines of the names under a group, each after `pad`. -/
def nameLines (pad : String) (names : List String) : String :=
  String.join (names.zipIdx.map fun (n, i) => pad ++ branch (i + 1 == names.length) ++ n ++ "\n")

/-- The lines of one group with the names of its cases. -/
def groupLines (last : Bool) (g : Group) (names : List String) : String :=
  let pad := indent last
  branch last ++ g.label ++ "\n" ++
    if names.isEmpty then pad ++ branch true ++ "(no cases found)\n" else nameLines pad names

/-- The tree of `cases` under `groups`. -/
def render (groups : List Group) (cases : List Case) : String :=
  let header :=
    "Found " ++ toString cases.length ++ " case(s) in " ++ toString groups.length ++ " group(s):\n"
  let names (g : Group) : List String := (cases.filter (·.group == g)).map (·.name)
  header ++ String.join (groups.zipIdx.map fun (g, i) => groupLines (i + 1 == groups.length) g (names g))

end Regress.Listing
