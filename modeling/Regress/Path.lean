/-!
# Slash-separated paths

Paths are texts with `/` between their elements; one that starts with `/` is absolute. `clean`
gives the shortest lexically equal path: it drops empty and `.` elements, lets `..` remove the
element before it (at the root it removes nothing, and a relative path keeps leading `..`
elements), and writes the empty result as `.`. `join` cleans its non-empty parts put together
with slashes. None of this looks at a file system: `a/../b` cleans to `b` whether `a` exists or
not.
-/

namespace Regress.Path

/-- Whether a path starts at the root. -/
def isAbs (p : String) : Bool :=
  p.toList.head? == some '/'

/-- One element of a path onto the cleaned elements so far (last first). -/
def pushElement (rooted : Bool) (stack : List String) (part : String) : List String :=
  if part.isEmpty || part == "." then stack
  else if part == ".." then
    match stack with
    | top :: rest => if top == ".." then ".." :: stack else rest
    | [] => if rooted then [] else [".."]
  else part :: stack

/-- The elements of the lexically cleaned path, first to last. -/
def cleanElements (p : String) : List String :=
  (((p.toList.splitOn '/').map String.ofList).foldl (pushElement (isAbs p)) []).reverse

/-- The shortest path lexically equal to `p`; the empty path cleans to `.`. -/
def clean (p : String) : String :=
  let body := "/".intercalate (cleanElements p)
  if isAbs p then "/" ++ body
  else if body.isEmpty then "."
  else body

/-- The non-empty parts put together with slashes and cleaned; no such part gives `""`. -/
def join (parts : List String) : String :=
  let kept := parts.filter (!·.isEmpty)
  if kept.isEmpty then "" else clean ("/".intercalate kept)

/-- The path with its trailing slashes dropped. -/
def dropTrailingSlashes (p : String) : String :=
  String.ofList (p.toList.reverse.dropWhile (· = '/')).reverse

/-- The last element of a path, trailing slashes ignored: `.` for the empty path and `/` for a
path of slashes only. -/
def base (p : String) : String :=
  if p.isEmpty then "."
  else
    let q := dropTrailingSlashes p
    if q.isEmpty then "/"
    else String.ofList (q.toList.reverse.takeWhile (· ≠ '/')).reverse

/-- All but the last element of a path, cleaned; `.` when there is no slash. -/
def dir (p : String) : String :=
  clean (String.ofList (p.toList.reverse.dropWhile (· ≠ '/')).reverse)

/-- The absolute form of `p` seen from the working directory `cwd`. -/
def absolute (cwd p : String) : String :=
  if isAbs p then clean p else join [cwd, p]

end Regress.Path
