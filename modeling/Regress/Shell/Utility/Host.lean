import Regress.Shell.Utility.Basic

/-!
# What the host says about itself

`whoami` and `id` name the user the programs run as, the superuser; `uname` names the system;
`realpath` and `readlink -f` write a path made absolute with `.` and `..` resolved.

The system keeps its programs under `/usr`: `/bin`, `/sbin` and `/lib` lead there, and
`/usr/bin/sh` is the shell `dash`. Those are the only links a path can pass through.
-/

namespace Regress.Shell

/-- `whoami`: the name of the user. -/
def whoami (inv : Invocation) : Completion :=
  match inv.args with
  | [] => inv.finish 0 "root\n" ""
  | a :: _ =>
    if a.startsWith "-" && a != "-" then
      inv.finish 1 "" (inv.message ("invalid option -- " ++ quoteName (String.ofList ((a.toList.drop 1).take 1))) ++ inv.tryHelp)
    else inv.finish 1 "" (inv.message ("extra operand " ++ quoteName a) ++ inv.tryHelp)

/-- `id`: the numbers and names of the user and its groups. -/
def idUtility (inv : Invocation) : Completion :=
  match parseOptions (flags "ugGnrz" ++ [
      { key := "help", long := some "help" }, { key := "version", long := some "version" }])
      false inv.args with
  | .error e => inv.optionFailure 1 e
  | .ok (opts, users) =>
    match users.find? (· != "root") with
    | some u => inv.finish 1 "" (inv.message (quoteName u ++ ": no such user"))
    | none =>
      let chosen := (opts.filter fun (k, _) => k == "u" || k == "g" || k == "G").length
      if chosen > 1 then inv.finish 1 "" (inv.message "cannot print \"only\" of more than one choice")
      else if chosen == 0 && (opts.has "n" || opts.has "r") then
        inv.finish 1 "" (inv.message "cannot print only names or real IDs in default format")
      else if chosen == 0 then inv.finish 0 "uid=0(root) gid=0(root) groups=0(root)\n" ""
      else inv.finish 0 ((if opts.has "n" then "root" else "0") ++ "\n") ""

/-- `uname`: the name of the system, its machine and its kind of operating system. -/
def uname (inv : Invocation) : Completion :=
  let specs : List OptSpec := [
    { key := "a", short := some 'a', long := some "all" },
    { key := "s", short := some 's', long := some "kernel-name" },
    { key := "n", short := some 'n', long := some "nodename" },
    { key := "r", short := some 'r', long := some "kernel-release" },
    { key := "v", short := some 'v', long := some "kernel-version" },
    { key := "m", short := some 'm', long := some "machine" },
    { key := "p", short := some 'p', long := some "processor" },
    { key := "i", short := some 'i', long := some "hardware-platform" },
    { key := "o", short := some 'o', long := some "operating-system" },
    { key := "help", long := some "help" },
    { key := "version", long := some "version" }]
  match parseOptions specs false inv.args with
  | .error e => inv.optionFailure 1 e
  | .ok (opts, extra) =>
    match extra with
    | a :: _ => inv.finish 1 "" (inv.message ("extra operand " ++ quoteName a) ++ inv.tryHelp)
    | [] =>
      let all := opts.has "a"
      let fields : List (String × String) :=
        [("s", "Linux"), ("n", "localhost"), ("r", "6.1.0"), ("v", "#1 SMP"), ("m", "x86_64"),
         ("p", "unknown"), ("i", "unknown"), ("o", "GNU/Linux")]
      let wanted := fields.filter fun (k, _) =>
        (all && k != "p" && k != "i") || opts.has k
      let wanted := if wanted.isEmpty then [("s", "Linux")] else wanted
      inv.finish 0 (" ".intercalate (wanted.map (·.2)) ++ "\n") ""

/-- A path of the system with its links followed: `/bin`, `/sbin` and `/lib` lead to `/usr`,
and the shell `sh` is `dash`. -/
def followSystemLinks (elements : List String) : List String :=
  let elements := match elements with
    | top :: rest => if ["bin", "sbin", "lib", "lib64"].contains top then "usr" :: top :: rest else top :: rest
    | [] => []
  if elements == ["usr", "bin", "sh"] then ["usr", "bin", "dash"] else elements

/-- A path made absolute, with `.`, `..` and repeated slashes resolved. -/
def resolvedPath (cwd : List String) (path : String) : List String :=
  let start := if path.startsWith "/" then [] else cwd
  let parts := (path.splitOn "/").filter fun p => !p.isEmpty && p != "."
  followSystemLinks (parts.foldl (fun acc p => if p == ".." then acc.dropLast else acc ++ [p]) start)

/-- `realpath` and `readlink -f`: each path made absolute and resolved. Every element but the
last must exist (all of them with `-e`, none with `-m`). -/
def canonicalPaths (inv : Invocation) (needAll needNone : Bool) (paths : List String) :
    String × String :=
  paths.foldl (fun (acc : String × String) p =>
    let full := resolvedPath inv.cwd p
    let exists' (els : List String) : Bool :=
      els.isEmpty || (inv.tree.get? els).isSome || (els.take 1 == ["usr"] && els.length ≤ 3)
    let parentOk := needNone || exists' full.dropLast
    let selfOk := needNone || !needAll || exists' full
    if p.isEmpty then (acc.1, acc.2 ++ inv.message (quoteIfNeeded p ++ ": " ++ errnoText .noEntry))
    else if parentOk && selfOk then (acc.1 ++ "/" ++ "/".intercalate full ++ "\n", acc.2)
    else (acc.1, acc.2 ++ inv.message (quoteIfNeeded p ++ ": " ++ errnoText .noEntry))) ("", "")

/-- `realpath`: writes each path made absolute and resolved. -/
def realpath (inv : Invocation) : Completion :=
  let specs : List OptSpec := [
    { key := "e", short := some 'e', long := some "canonicalize-existing" },
    { key := "m", short := some 'm', long := some "canonicalize-missing" },
    { key := "L", short := some 'L', long := some "logical" },
    { key := "P", short := some 'P', long := some "physical" },
    { key := "q", short := some 'q', long := some "quiet" },
    { key := "s", short := some 's', long := some "strip" },
    { key := "s", long := some "no-symlinks" },
    { key := "z", short := some 'z', long := some "zero" },
    { key := "help", long := some "help" },
    { key := "version", long := some "version" }]
  match parseOptions specs false inv.args with
  | .error e => inv.optionFailure 1 e
  | .ok (_, []) => inv.finish 1 "" (missingOperand inv)
  | .ok (opts, paths) =>
    let (out, err) := canonicalPaths inv (opts.has "e") (opts.has "m") paths
    inv.finish (if err.isEmpty then 0 else 1) out (if opts.has "q" then "" else err)

/-- `readlink`: with `-f`, `-e` or `-m` each path resolved; otherwise the target of each
link, and there are none. -/
def readlink (inv : Invocation) : Completion :=
  let specs : List OptSpec := [
    { key := "f", short := some 'f', long := some "canonicalize" },
    { key := "e", short := some 'e', long := some "canonicalize-existing" },
    { key := "m", short := some 'm', long := some "canonicalize-missing" },
    { key := "n", short := some 'n', long := some "no-newline" },
    { key := "q", short := some 'q', long := some "quiet" },
    { key := "s", short := some 's', long := some "silent" },
    { key := "v", short := some 'v', long := some "verbose" },
    { key := "z", short := some 'z', long := some "zero" },
    { key := "help", long := some "help" },
    { key := "version", long := some "version" }]
  match parseOptions specs false inv.args with
  | .error e => inv.optionFailure 1 e
  | .ok (_, []) => inv.finish 1 "" (missingOperand inv)
  | .ok (opts, paths) =>
    if opts.has "f" || opts.has "e" || opts.has "m" then
      let (out, err) := canonicalPaths inv (opts.has "e") (opts.has "m") paths
      let out := if opts.has "n" && paths.length == 1 then (out.dropEnd 1).toString else out
      inv.finish (if err.isEmpty then 0 else 1) out (if opts.has "v" then err else "")
    else
      let links := paths.filterMap fun p =>
        let full := (resolvedPath inv.cwd p)
        if p == "/bin/sh" || p == "/usr/bin/sh" then some "dash"
        else if full.length == 2 && ["bin", "sbin", "lib", "lib64"].any (some · == full.getLast?) && full.head? == some "usr" && !p.startsWith "/usr" then some ("usr/" ++ full.getLast?.getD "")
        else none
      inv.finish (if links.length == paths.length then 0 else 1) (String.join (links.map (· ++ "\n"))) ""

end Regress.Shell
