import Regress.Path
import Regress.Text.Utf8

/-!
# The file tree

The files a run reads and writes, as a map from absolute paths (lists of path elements) to
nodes; the root is always a directory. Paths given to an operation are walked the way a Linux
kernel walks them, element by element from the root or from the working directory: every element
but the last must name a directory, `.` stays and `..` climbs, so `missing/../x` fails although
it cleans to `x`; no element may be longer than 255 bytes, and no path text 4096 bytes or longer
(`PATH_MAX`, which counts the closing zero byte). Failures carry the operation, the path as given
and an `Errno`, and print as `open corpus/a.input: no such file or directory`.

Permission bits are kept, and a file runs only when its owner may execute it, but opening,
creating and walking a path do not check them: the tree is one whose every directory the process may search and
write and whose every file it may read and write, as the trees a run starts from are. A file
whose node is listed in `closeFaults` fails when it is closed after writing, as a file on a full
or failing disk does (`closeFault`).

`mkdirAll` creates a directory and its missing parents; it fails only where a path element that
is needed as a directory exists as a file, or where an element cannot be reached. The parents
it made before failing stay made.
-/

namespace Regress

/-- What a path names: a file with its text and whether it may be executed, or a directory. -/
inductive Node where
  | file (content : String) (executable : Bool)
  | dir
  deriving Repr, DecidableEq, Inhabited

/-- Why an operation on the tree failed. -/
inductive Errno where
  | noEntry
  | notDir
  | isDir
  | exists
  | permissionDenied
  | execFormat
  | nameTooLong
  | io
  deriving Repr, DecidableEq, Inhabited

/-- The system's wording of each failure. -/
def Errno.text : Errno → String
  | .noEntry => "no such file or directory"
  | .notDir => "not a directory"
  | .isDir => "is a directory"
  | .exists => "file exists"
  | .permissionDenied => "permission denied"
  | .execFormat => "exec format error"
  | .nameTooLong => "file name too long"
  | .io => "input/output error"

/-- The longest path element, in bytes. -/
def maxNameLength : Nat := 255

/-- The size, in bytes, from which a path text is refused. -/
def maxPathLength : Nat := 4096

/-- A failed operation on a path. -/
structure FsError where
  op : String
  path : String
  errno : Errno
  deriving Repr, DecidableEq, Inhabited

/-- The failure as the system reports it: operation, path, reason. -/
def FsError.message (e : FsError) : String :=
  e.op ++ " " ++ e.path ++ ": " ++ e.errno.text

/-- Where a path leads: a directory, and the name in it, or `none` when the path names the
directory itself (`.`, `..` or the root as last element). -/
structure Place where
  parent : List String
  name : Option String
  trailingSlash : Bool
  deriving Repr, DecidableEq

/-- The absolute path of a place. -/
def Place.full (pl : Place) : List String :=
  match pl.name with
  | some n => pl.parent ++ [n]
  | none => pl.parent

/-- Files and directories by absolute path. The names and contents are texts of the program,
or, when `octets` is set, octet texts, as a shell sees them. -/
structure FileTree where
  nodes : List (List String × Node)
  octets : Bool := false
  /-- The permission bits of the nodes that were given bits of their own, by path; every other
  node has the usual bits of its kind (`Node.usualMode`). -/
  modes : List (List String × Nat) := []
  /-- The nodes whose files fail to close once written, with the failure. -/
  closeFaults : List (List String × Errno) := []
  deriving Repr, Inhabited

/-- The permission bits a node has unless it was given others: `0755` for a directory or an
executable file, `0644` for another file. -/
def Node.usualMode : Node → Nat
  | .file _ true => 0o755
  | .file _ false => 0o644
  | .dir => 0o755

namespace FileTree

/-- The number of octets of a name of the tree. -/
def nameSize (t : FileTree) (name : String) : Nat :=
  if t.octets then name.length else Utf8.byteSize name

/-- The tree as a shell sees it: names and contents as octet texts. -/
def toOctets (t : FileTree) : FileTree :=
  if t.octets then t
  else
    { nodes := t.nodes.map fun (p, n) =>
        (p.map Utf8.toOctetText, match n with
          | .file c x => .file (Utf8.toOctetText c) x
          | .dir => .dir)
      octets := true
      modes := t.modes.map fun (p, m) => (p.map Utf8.toOctetText, m)
      closeFaults := t.closeFaults.map fun (p, e) => (p.map Utf8.toOctetText, e) }

/-- The tree a shell leaves, back as texts of the program. -/
def ofOctets (t : FileTree) : FileTree :=
  if !t.octets then t
  else
    { nodes := t.nodes.map fun (p, n) =>
        (p.map Utf8.ofOctetText, match n with
          | .file c x => .file (Utf8.ofOctetText c) x
          | .dir => .dir)
      octets := false
      modes := t.modes.map fun (p, m) => (p.map Utf8.ofOctetText, m)
      closeFaults := t.closeFaults.map fun (p, e) => (p.map Utf8.ofOctetText, e) }

/-- The node at an absolute path; the root is a directory. -/
def get? (t : FileTree) (p : List String) : Option Node :=
  if p.isEmpty then some .dir else (t.nodes.find? (·.1 == p)).map (·.2)

/-- The tree with `p` set to `n`. -/
def set (t : FileTree) (p : List String) (n : Node) : FileTree :=
  { t with nodes := (p, n) :: t.nodes.filter (·.1 != p) }

/-- The tree without the node at `p` and everything below it. -/
def erase (t : FileTree) (p : List String) : FileTree :=
  { t with nodes := t.nodes.filter (fun (q, _) => q.take p.length != p)
           modes := t.modes.filter fun (q, _) => q.take p.length != p }

/-- The permission bits of the node at `p`. -/
def modeOf (t : FileTree) (p : List String) : Nat :=
  match t.modes.find? (·.1 == p) with
  | some (_, m) => m
  | none => ((t.get? p).map Node.usualMode).getD 0o644

/-- The tree with the node at `p` given the permission bits `m`; a file may be executed
when its owner may execute it. -/
def setMode (t : FileTree) (p : List String) (m : Nat) : FileTree :=
  let t := { t with modes := (p, m) :: t.modes.filter (·.1 != p) }
  match t.get? p with
  | some (.file c _) => t.set p (.file c (m / 64 % 2 == 1))
  | _ => t

/-- The tree with the node just made at `p` given the bits `base` less those of the mask of
the process that made it, as the system gives a new file (`0666`) or directory (`0777`). -/
def madeWith (t : FileTree) (p : List String) (base mask : Nat) : FileTree :=
  let m := Nat.land base (511 - mask % 512)
  match t.get? p with
  | some n => if m == n.usualMode then t else t.setMode p m
  | none => t

/-- Whether the owner may list the directory at `p` and reach what is in it: it may read and
search it. -/
def searchable (t : FileTree) (p : List String) : Bool :=
  let m := t.modeOf p
  m / 256 % 2 == 1 && m / 64 % 2 == 1

/-- A tree holding only the directories on the way to `dir`. -/
def within (dir : List String) : FileTree :=
  { nodes := ((List.range dir.length).map fun i => (dir.take (i + 1), Node.dir)).reverse }

/-- The elements of a path, empty ones dropped. -/
def elements (p : String) : List String :=
  ((p.toList.splitOn '/').map String.ofList).filter (!·.isEmpty)

/-- Walks the elements of a path from the directory `cur`. An element longer than
`maxNameLength` bytes is refused when the walk reaches it. -/
def walk (t : FileTree) (cur : List String) : List String → Except Errno (List String × Option String)
  | [] => .ok (cur, none)
  | [last] =>
    if last == "." then .ok (cur, none)
    else if last == ".." then .ok (cur.dropLast, none)
    else if t.nameSize last > maxNameLength then .error .nameTooLong
    else .ok (cur, some last)
  | e :: rest =>
    if e == "." then walk t cur rest
    else if e == ".." then walk t cur.dropLast rest
    else if t.nameSize e > maxNameLength then .error .nameTooLong
    else
      match t.get? (cur ++ [e]) with
      | some .dir => walk t (cur ++ [e]) rest
      | some (.file _ _) => .error .notDir
      | none => .error .noEntry

/-- Where the path `p` leads from the working directory `cwd`. -/
def locate (t : FileTree) (cwd : List String) (p : String) : Except Errno Place :=
  if p.isEmpty then .error .noEntry
  else if maxPathLength ≤ t.nameSize p then .error .nameTooLong
  else
    let start := if Path.isAbs p then [] else cwd
    match t.walk start (elements p) with
    | .ok (parent, name) => .ok ⟨parent, name, p.toList.getLast? == some '/'⟩
    | .error e => .error e

/-- The node a path names. -/
def stat (t : FileTree) (cwd : List String) (p : String) : Except Errno Node :=
  match t.locate cwd p with
  | .error e => .error e
  | .ok pl =>
    match t.get? pl.full with
    | none => .error .noEntry
    | some (.file c x) => if pl.trailingSlash then .error .notDir else .ok (.file c x)
    | some .dir => .ok .dir

/-- How closing the file that `p` names, once written, fails, if it does. -/
def closeFault (t : FileTree) (cwd : List String) (p : String) : Option Errno :=
  match t.locate cwd p with
  | .ok pl => (t.closeFaults.find? (·.1 == pl.full)).map (·.2)
  | .error _ => none

/-- Whether a path names a directory. -/
def isDirAt (t : FileTree) (cwd : List String) (p : String) : Bool :=
  match t.stat cwd p with
  | .ok .dir => true
  | _ => false

/-- The text of the file at `p`. Opening fails as `open`; a directory opens but fails to read. -/
def readFile (t : FileTree) (cwd : List String) (p : String) : Except FsError String :=
  match t.stat cwd p with
  | .error e => .error ⟨"open", p, e⟩
  | .ok (.file c _) => .ok c
  | .ok .dir => .error ⟨"read", p, .isDir⟩

/-- Whether the path can be opened for reading: a file or a directory. -/
def openRead (t : FileTree) (cwd : List String) (p : String) : Except FsError Node :=
  match t.stat cwd p with
  | .error e => .error ⟨"open", p, e⟩
  | .ok n => .ok n

/-- Opens `p` for writing, creating or truncating it, and writes `content`. An existing file
keeps whether it may be executed; a new one may not be. -/
def writeFile (t : FileTree) (cwd : List String) (p : String) (content : String) :
    Except FsError FileTree :=
  match t.locate cwd p with
  | .error e => .error ⟨"open", p, e⟩
  | .ok pl =>
    match pl.name with
    | none => .error ⟨"open", p, .isDir⟩
    | some _ =>
      match t.get? pl.parent, t.get? pl.full with
      | _, some .dir => .error ⟨"open", p, .isDir⟩
      | _, some (.file _ x) =>
        if pl.trailingSlash then .error ⟨"open", p, .notDir⟩ else .ok (t.set pl.full (.file content x))
      | some .dir, none =>
        if pl.trailingSlash then .error ⟨"open", p, .isDir⟩
        else .ok (t.set pl.full (.file content false))
      | _, none => .error ⟨"open", p, .noEntry⟩

/-- Sets whether the file at `p` may be executed; nothing else changes. -/
def setExecutable (t : FileTree) (cwd : List String) (p : String) (x : Bool) : FileTree :=
  match t.locate cwd p with
  | .ok pl =>
    match t.get? pl.full with
    | some (.file c _) => t.set pl.full (.file c x)
    | _ => t
  | .error _ => t

/-- Creates the directory `p`, whose parent must exist. -/
def mkdir (t : FileTree) (cwd : List String) (p : String) : Except FsError FileTree :=
  match t.locate cwd p with
  | .error e => .error ⟨"mkdir", p, e⟩
  | .ok pl =>
    match pl.name with
    | none => .error ⟨"mkdir", p, .exists⟩
    | some _ =>
      match t.get? pl.full with
      | some _ => .error ⟨"mkdir", p, .exists⟩
      | none => .ok (t.set pl.full .dir)

/-- The characters of a path up to the slash before its last element: `a/b//c/` gives `a/b//`. -/
def parentPrefix (p : List Char) : List Char :=
  ((p.reverse.dropWhile (· = '/')).dropWhile (· ≠ '/')).reverse

theorem parentPrefix_length_le (p : List Char) : (parentPrefix p).length ≤ p.length := by
  unfold parentPrefix
  rw [List.length_reverse]
  calc _ ≤ (p.reverse.dropWhile (· = '/')).length := (List.dropWhile_sublist _).length_le
    _ ≤ p.reverse.length := (List.dropWhile_sublist _).length_le
    _ = p.length := List.length_reverse

/-- Creates `p` and every missing directory above it: the tree with every directory that could
be made, and the failure that stopped it, if any. An existing directory is left alone; a file
where a directory is needed fails as `mkdir` of that path. The parents made before a failure
stay. -/
def mkdirAllKeeping (t : FileTree) (cwd : List String) (p : String) : FileTree × Option FsError :=
  go p.toList
where
  /-- `mkdirAllKeeping` on the path with these characters. -/
  go (cs : List Char) : FileTree × Option FsError :=
    let path := String.ofList cs
    match t.stat cwd path with
    | .ok .dir => (t, none)
    | .ok (.file _ _) => (t, some ⟨"mkdir", path, .notDir⟩)
    | .error _ =>
      let parent : FileTree × Option FsError :=
        if (parentPrefix cs).length > 1 then
          go ((parentPrefix cs).take ((parentPrefix cs).length - 1))
        else (t, none)
      match parent with
      | (t', some e) => (t', some e)
      | (t', none) =>
        match t'.mkdir cwd path with
        | .ok t'' => (t'', none)
        | .error e => if t'.isDirAt cwd path then (t', none) else (t', some e)
  termination_by cs.length
  decreasing_by
    have := parentPrefix_length_le cs
    simp only [List.length_take]
    omega

/-- Creates `p` and every missing directory above it, or fails with nothing made. -/
def mkdirAll (t : FileTree) (cwd : List String) (p : String) : Except FsError FileTree :=
  match t.mkdirAllKeeping cwd p with
  | (t', none) => .ok t'
  | (_, some e) => .error e

/-- The names and nodes in the directory at the absolute path `p`, by the octets of their
names. -/
def children (t : FileTree) (p : List String) : List (String × Node) :=
  let direct := t.nodes.filterMap fun (q, n) =>
    if q.length = p.length + 1 ∧ q.take p.length = p then q.getLast?.map (·, n) else none
  direct.mergeSort fun a b => Utf8.octetsLE a.1 b.1

/-- The entries of the directory at `p`, by name. -/
def readDir (t : FileTree) (cwd : List String) (p : String) : Except FsError (List (String × Node)) :=
  match t.locate cwd p with
  | .error e => .error ⟨"open", p, e⟩
  | .ok pl =>
    match t.get? pl.full with
    | none => .error ⟨"open", p, .noEntry⟩
    | some (.file _ _) => .error ⟨"readdirent", p, .notDir⟩
    | some .dir => .ok (t.children pl.full)

/-- Whether one list of path elements comes before another, element by element, each element
by its octets. -/
def elementsLe : List String → List String → Bool
  | [], _ => true
  | _ :: _, [] => false
  | a :: as, b :: bs => if a = b then elementsLe as bs else !Utf8.octetsLE b a

/-- Every node below the directory `dir`, by path relative to it, in the order of a walk that
lists each directory's entries by name and enters each directory where it is listed. -/
def below (t : FileTree) (dir : List String) : List (List String × Node) :=
  let inside := t.nodes.filterMap fun (q, n) =>
    if q.length > dir.length ∧ q.take dir.length = dir then some (q.drop dir.length, n) else none
  inside.mergeSort fun a b => elementsLe a.1 b.1

/-- Every node below the directory `dir` that a walk of the owner reaches, in the order of
`below`: what lies in a directory it may not read or search is not reached. -/
def reachableBelow (t : FileTree) (dir : List String) : List (List String × Node) :=
  (t.below dir).filter fun (rel, _) =>
    (List.range rel.length).all fun i => t.searchable (dir ++ rel.take i)

/-- Lays out directories and then files under the working directory, each with its missing
parents; a file's flag tells whether it may be executed. Entries that cannot be made are
skipped. -/
def populate (t : FileTree) (cwd : List String) (dirs : List String)
    (files : List (String × String × Bool)) : FileTree :=
  let t := dirs.foldl (fun t d => (t.mkdirAll cwd d).toOption.getD t) t
  files.foldl (fun t (p, content, x) =>
    let t := (t.mkdirAll cwd (Path.dir p)).toOption.getD t
    match t.writeFile cwd p content with
    | .ok t' => t'.setExecutable cwd p x
    | .error _ => t) t

end FileTree

end Regress
