import Regress.FileTree
import Regress.Failure

/-!
# Finding the cases of a group

The cases of a group directory are its entries that are not directories and whose names end in
the source suffix, octet for octet, with more before it; a case is named by what comes before
the suffix. The names come sorted on their own, by their octets, since taking the suffix away can change their order (`a-b.lama`
sorts before `a.lama`, but `a` before `a-b`). Subdirectories are not entered.
-/

namespace Regress.Discovery

/-- The case name of a directory entry, if it is a source file. -/
def caseName (suffix : String) (entry : String × Node) : Option String :=
  match entry.2 with
  | .dir => none
  | .file _ _ =>
    let name := Utf8.octets entry.1
    let tail := Utf8.octets suffix
    if name.length > tail.length ∧ name.drop (name.length - tail.length) = tail then
      some (Utf8.decode (name.take (name.length - tail.length)))
    else none

/-- The names of the cases in `dir`, in ascending order; a directory that is missing or is not
a directory is a discovery failure naming the cleaned path. -/
def caseNames (t : FileTree) (cwd : List String) (suffix dir : String) :
    Except Failure (List String) :=
  let dir := Path.clean dir
  match t.stat cwd dir with
  | .error _ => .error (Failure.discovery ("test path does not exist: " ++ dir))
  | .ok (.file _ _) => .error (Failure.discovery ("test path is not a directory: " ++ dir))
  | .ok .dir =>
    match t.readDir cwd dir with
    | .error e => .error (Failure.discovery e.message)
    | .ok entries => .ok ((entries.filterMap (caseName suffix)).mergeSort fun a b => Utf8.octetsLE a b)

end Regress.Discovery
