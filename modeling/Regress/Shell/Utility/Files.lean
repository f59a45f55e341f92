import Regress.Shell.Utility.Basic
import Regress.Shell.Utility.Mode
import Regress.Shell.Utility.Sort

/-!
# Utilities on names and files

`basename` and `dirname` take paths apart; `cp`, `mv`, `rm`, `mkdir`, `rmdir`, `touch`,
`chmod` and `ls` work on the files of the tree.

* A path's last element is what follows its last slash once trailing slashes are dropped; the
  directory is what comes before it without the slashes between, `.` when nothing does and `/`
  for a path of slashes.
* Each file operand that fails is reported and the others are still done; the status is then
  1 (2 for `ls`).
* `cp` and `mv` into an existing directory put the file under its own name there; more than
  two operands need a directory as the last one.
-/

namespace Regress.Shell

/-- The last element of a path, without the slashes after it; `/` for a path of slashes. -/
def lastElement (p : String) : String :=
  let cs := p.toList
  if cs.isEmpty then ""
  else
    let trimmed := (cs.reverse.dropWhile (· == '/')).reverse
    if trimmed.isEmpty then "/"
    else String.ofList (trimmed.reverse.takeWhile (· != '/')).reverse

/-- The directory part of a path: what precedes its last element, without the slashes before
it; `.` when nothing does and `/` when only slashes do. -/
def directoryPart (p : String) : String :=
  let cs := p.toList
  let rooted := cs.head? == some '/'
  -- the last element starts after the last run of slashes that something follows
  let trimmed := (cs.reverse.dropWhile (· == '/')).reverse
  let before := (trimmed.reverse.dropWhile (· != '/')).reverse
  let before := (before.reverse.dropWhile (· == '/')).reverse
  if before.isEmpty then (if rooted then "/" else ".") else String.ofList before

/-- The options of `basename`. -/
def basenameOptions : List OptSpec := [
  { key := "a", short := some 'a', long := some "multiple" },
  { key := "s", short := some 's', long := some "suffix", arg := .required },
  { key := "z", short := some 'z', long := some "zero" },
  { key := "help", long := some "help" },
  { key := "version", long := some "version" }]

/-- `basename`: the last element of each name, without a suffix if one is given and something
is left without it. -/
def basename (inv : Invocation) : Completion :=
  match parseOptions basenameOptions true inv.args with
  | .error e => inv.optionFailure 1 e
  | .ok (opts, operands) =>
    let multiple := opts.has "a" || opts.has "s"
    let ending := if opts.has "z" then "\x00" else "\n"
    let strip (suffix : Option String) (name : String) : String :=
      let b := lastElement name
      match suffix with
      | some sfx =>
        if !sfx.isEmpty && b.endsWith sfx && b != sfx then String.ofList (b.toList.take (b.length - sfx.length))
        else b
      | none => b
    match operands with
    | [] => inv.finish 1 "" (missingOperand inv)
    | name :: rest =>
      if multiple then
        inv.finish 0 (String.join (operands.map fun n => strip (opts.last? "s") n ++ ending)) ""
      else
        match rest with
        | _ :: extra :: _ => inv.finish 1 "" (inv.message ("extra operand " ++ quoteName extra) ++ inv.tryHelp)
        | _ => inv.finish 0 (strip rest.head? name ++ ending) ""

/-- `dirname`: each path without its last element. -/
def dirname (inv : Invocation) : Completion :=
  let specs : List OptSpec := [
    { key := "z", short := some 'z', long := some "zero" },
    { key := "help", long := some "help" },
    { key := "version", long := some "version" }]
  match parseOptions specs false inv.args with
  | .error e => inv.optionFailure 1 e
  | .ok (opts, operands) =>
    if operands.isEmpty then inv.finish 1 "" (missingOperand inv)
    else
      let ending := if opts.has "z" then "\x00" else "\n"
      inv.finish 0 (String.join (operands.map fun p => directoryPart p ++ ending)) ""

/-! ## Copying and moving -/

/-- Every node at or below a path, with the elements below it. -/
def subtree (t : FileTree) (p : List String) : List (List String × Node) :=
  t.nodes.filterMap fun (q, n) =>
    if q.take p.length == p && q.length ≥ p.length then some (q.drop p.length, n) else none

/-- Copies what is at `src` (absolute) to `dst` (absolute), which must not exist or be a file;
directories only when `recursive`. -/
def copyNode (t : FileTree) (src dst : List String) : FileTree :=
  (subtree t src).foldl (fun t (rel, n) => t.set (dst ++ rel) n) t

/-- The tree `t` with the nodes copied from `src` to `dst` given the bits their originals have
in `before`, less those of `mask`. -/
def copyModes (before t : FileTree) (src dst : List String) (mask : Nat) : FileTree :=
  (subtree before src).foldl (fun t (rel, n) =>
    let m := Nat.land (before.modeOf (src ++ rel)) (withoutBits allModeBits mask)
    if m == n.usualMode && !(t.modes.any (·.1 == dst ++ rel)) then t else t.setMode (dst ++ rel) m) t

/-- The options of `cp` and `mv`, long names in the order they are listed when one is
ambiguous. -/
def copyOptions (moving : Bool) : List OptSpec :=
  if moving then [
    { key := "b", short := some 'b' },
    { key := "b", long := some "backup", arg := .optional },
    { key := "context", short := some 'Z', long := some "context" },
    { key := "debug", long := some "debug" },
    { key := "f", short := some 'f', long := some "force" },
    { key := "i", short := some 'i', long := some "interactive" },
    { key := "n", short := some 'n', long := some "no-clobber" },
    { key := "no-copy", long := some "no-copy" },
    { key := "strip-trailing-slashes", long := some "strip-trailing-slashes" },
    { key := "S", short := some 'S', long := some "suffix", arg := .required },
    { key := "t", short := some 't', long := some "target-directory", arg := .required },
    { key := "T", short := some 'T', long := some "no-target-directory" },
    { key := "u", short := some 'u', long := some "update" },
    { key := "v", short := some 'v', long := some "verbose" },
    { key := "help", long := some "help" },
    { key := "version", long := some "version" }]
  else [
    { key := "a", short := some 'a', long := some "archive" },
    { key := "attributes-only", long := some "attributes-only" },
    { key := "b", short := some 'b' },
    { key := "b", long := some "backup", arg := .optional },
    { key := "copy-contents", long := some "copy-contents" },
    { key := "debug", long := some "debug" },
    { key := "L", short := some 'L', long := some "dereference" },
    { key := "f", short := some 'f', long := some "force" },
    { key := "i", short := some 'i', long := some "interactive" },
    { key := "l", short := some 'l', long := some "link" },
    { key := "n", short := some 'n', long := some "no-clobber" },
    { key := "P", short := some 'P', long := some "no-dereference" },
    { key := "no-preserve", long := some "no-preserve", arg := .required },
    { key := "T", short := some 'T', long := some "no-target-directory" },
    { key := "x", short := some 'x', long := some "one-file-system" },
    { key := "parents", long := some "parents" },
    { key := "parents", long := some "path" },
    { key := "preserve", long := some "preserve", arg := .optional },
    { key := "R", short := some 'R', long := some "recursive" },
    { key := "remove-destination", long := some "remove-destination" },
    { key := "sparse", long := some "sparse", arg := .required },
    { key := "reflink", long := some "reflink", arg := .optional },
    { key := "strip-trailing-slashes", long := some "strip-trailing-slashes" },
    { key := "S", short := some 'S', long := some "suffix", arg := .required },
    { key := "s", short := some 's', long := some "symbolic-link" },
    { key := "t", short := some 't', long := some "target-directory", arg := .required },
    { key := "u", short := some 'u', long := some "update" },
    { key := "v", short := some 'v', long := some "verbose" },
    { key := "context", short := some 'Z' },
    { key := "context", long := some "context", arg := .optional },
    { key := "help", long := some "help" },
    { key := "version", long := some "version" },
    { key := "R", short := some 'r' },
    { key := "d", short := some 'd' },
    { key := "H", short := some 'H' },
    { key := "p", short := some 'p' }]

/-- How a replaced file is kept: under its name with a suffix, under its name with the next
number (`.~N~`), or numbered when numbered copies of it exist already and with the suffix
otherwise. -/
inductive BackupKind where
  | simple (suffix : String)
  | numbered
  | existing (suffix : String)
  deriving Repr, DecidableEq, Inhabited

/-- The kinds of backup by their names (each with its other name), in the order they are
listed; `none` keeps nothing. -/
def backupNames : List (String × String) :=
  [("none", "off"), ("simple", "never"), ("existing", "nil"), ("numbered", "t")]

/-- Reads the name of a kind of backup, or an unambiguous start of one: `none` for none, or
what it is not. -/
def readBackupKind (value suffix : String) : Except Unit (Option BackupKind) :=
  let names := backupNames.flatMap fun (a, b) => [a, b]
  let chosen := if names.contains value then some value
    else match names.filter (value.isPrefixOf ·) with
      | [n] => some n
      | _ => none
  match chosen with
  | some "none" | some "off" => .ok none
  | some "simple" | some "never" => .ok (some (.simple suffix))
  | some "existing" | some "nil" => .ok (some (.existing suffix))
  | some _ => .ok (some .numbered)
  | none => .error ()

/-- What `cp` and `mv` are asked to do besides copying: move instead, enter directories,
leave existing files alone (`-n`), keep what they replace (`-b`), and tell each step (`-v`). -/
structure TransferRules where
  moving : Bool
  recursive : Bool
  noClobber : Bool
  backup : Option BackupKind
  verbose : Bool
  deriving Repr, Inhabited

/-- The numbers of the numbered copies of `name` in a directory. -/
def backupNumbers (t : FileTree) (dir : List String) (name : String) : List Nat :=
  (t.children dir).filterMap fun (n, _) =>
    if (name ++ ".~").isPrefixOf n && n.endsWith "~" then
      let middle := String.ofList ((n.toList.drop (name.length + 2)).dropLast)
      if !middle.isEmpty && middle.all Char.isDigit then middle.toNat? else none
    else none

/-- The name a replaced file `name` in a directory is kept under. -/
def keptName (t : FileTree) (dir : List String) (name : String) (kind : BackupKind) : String :=
  let numbers := backupNumbers t dir name
  let numbered := name ++ ".~" ++ toString (numbers.foldl max 0 + 1) ++ "~"
  match kind with
  | .simple suffix => name ++ suffix
  | .numbered => numbered
  | .existing suffix => if numbers.isEmpty then name ++ suffix else numbered

/-- A path as written with a name below it: one slash between them. -/
def joinShown (shown name : String) : String :=
  if shown.endsWith "/" then shown ++ name else shown ++ "/" ++ name

/-- The line `-v` writes for one step from `src` to `dst`, with the backup kept on the way. -/
def transferNote (moving : Bool) (src dst : String) (backup : Option String) : String :=
  (if moving then "renamed " else "") ++ quoteAlways src ++ " -> " ++ quoteAlways dst ++
    (match backup with
      | some b => " (backup: " ++ quoteAlways b ++ ")"
      | none => "") ++ "\n"

/-- Copies or moves one operand to a destination: the tree and what was written. -/
def transfer (inv : Invocation) (rules : TransferRules) (t : FileTree) (src dst : String) (into : Bool) :
    FileTree × List Write :=
  let moving := rules.moving
  let fail (m : String) : FileTree × List Write := (t, [.err (inv.message m)])
  match t.locate inv.cwd src with
  | .error e => fail ("cannot stat " ++ quoteAlways src ++ ": " ++ errnoText e)
  | .ok spl =>
    match t.get? spl.full with
    | none => fail ("cannot stat " ++ quoteAlways src ++ ": " ++ errnoText .noEntry)
    | some srcNode =>
      let target := if into then Path.join [dst, lastElement src] else dst
      if srcNode == .dir && !moving && !rules.recursive then
        fail ("-r not specified; omitting directory " ++ quoteAlways src)
      else
        match t.locate inv.cwd target with
        | .error e =>
          -- a path through a file cannot even be looked at; a missing directory on the way
          -- shows when the file is made, or when the move is tried
          let what := if e == .notDir then "cannot stat "
            else if moving then "cannot move " ++ quoteAlways src ++ " to "
            else if srcNode == .dir then "cannot create directory " else "cannot create regular file "
          fail (what ++ quoteAlways target ++ ": " ++ errnoText e)
        | .ok dpl =>
          if dpl.full == spl.full then
            fail (quoteAlways src ++ " and " ++ quoteAlways target ++ " are the same file")
          else if srcNode == .dir && dpl.full.take spl.full.length == spl.full then
            fail ("cannot " ++ (if moving then "move " else "copy a directory, ") ++
              quoteAlways src ++ ", into itself, " ++ quoteAlways target)
          else
            match t.get? dpl.parent, t.get? dpl.full with
            | some .dir, existing =>
              match srcNode, existing with
              | .dir, some (.file _ _) =>
                fail ("cannot overwrite non-directory " ++ quoteAlways target ++ " with directory " ++
                  quoteAlways src)
              | .file _ _, some .dir =>
                fail ("cannot overwrite directory " ++ quoteAlways target ++ " with non-directory")
              | .file content x, some (.file oldContent oldX) =>
                if rules.noClobber then (t, [])
                else
                  let (t, kept) := match rules.backup, dpl.name with
                    | some kind, some name =>
                      let kept := keptName t dpl.parent name kind
                      (t.set (dpl.parent ++ [kept]) (.file oldContent oldX),
                        some (target ++ (kept.drop name.length).toString))
                    | _, _ => (t, none)
                  let t' := t.set dpl.full (.file content (if moving then x else oldX))
                  -- a moved file keeps its bits; a file copied over keeps those it had
                  let t' := if moving then copyModes t t' spl.full dpl.full 0 else t'
                  let note := if rules.verbose then [.out (transferNote moving src target kept)] else []
                  (if moving then t'.erase spl.full else t', note)
              | _, _ =>
                let t' := copyNode t spl.full dpl.full
                let t' := copyModes t t' spl.full dpl.full (if moving then 0 else inv.mask)
                let t' := if moving then
                    ((subtree t' spl.full).foldl (fun t (rel, _) => t.erase (spl.full ++ rel)) t')
                  else t'
                -- a copy tells each entry it makes, a move only the rename
                let steps := if moving then [[]]
                  else ((subtree t spl.full).map (·.1)).mergeSort FileTree.elementsLe
                let notes := if !rules.verbose then []
                  else steps.map fun rel =>
                    let shown (base : String) : String := rel.foldl joinShown base
                    Write.out (transferNote moving (shown src) (shown target) none)
                (t', notes)
            | _, _ =>
              let what := if moving then "cannot move " ++ quoteAlways src ++ " to "
                else if srcNode == .dir then "cannot create directory " else "cannot create regular file "
              fail (what ++ quoteAlways target ++ ": " ++ errnoText .noEntry)

/-- `cp` or `mv`: copies or moves files, into a directory when the last operand is one. -/
def copyOrMove (moving : Bool) (inv : Invocation) : Completion :=
  match parseOptions (copyOptions moving) false inv.args with
  | .error e => inv.optionFailure 1 e
  | .ok (opts, operands) =>
    let lastOf (keys : List String) : Option String :=
      (opts.filter fun (k, _) => keys.contains k).getLast?.map (·.1)
    let suffix := (opts.last? "S").getD ((inv.env.find? (·.1 == "SIMPLE_BACKUP_SUFFIX")).map (·.2) |>.getD "~")
    let fromEnv : String :=
      match inv.env.find? (fun (kv : String × String) => kv.1 == "VERSION_CONTROL") with
      | some (_, v) => v
      | none => "existing"
    let control : Option String := match opts.last? "b" with
      | some "" => some fromEnv
      | some v => some v
      | none => if opts.has "S" then some fromEnv else none
    match control.map (readBackupKind · suffix) with
    | some (.error ()) =>
      inv.finish 1 "" (inv.message ("invalid argument " ++ quoteName (control.getD "") ++ " for " ++
        quoteName "backup type") ++ "Valid arguments are:\n" ++
        String.join (backupNames.map fun (a, b) => "  - " ++ quoteName a ++ ", " ++ quoteName b ++ "\n") ++
        inv.tryHelp)
    | decided =>
    let backup := match decided with
      | some (.ok kind) => kind
      | _ => none
    let rules : TransferRules :=
      { moving, recursive := opts.has "R" || opts.has "a"
        noClobber := lastOf (if moving then ["f", "i", "n"] else ["i", "n"]) == some "n"
        backup, verbose := opts.has "v" }
    let (srcs, dst, forceInto) : List String × Option String × Bool :=
      match opts.last? "t" with
      | some d => (operands, some d, true)
      | none =>
        match operands.reverse with
        | d :: rest => (rest.reverse, some d, false)
        | [] => ([], none, false)
    match srcs, dst with
    | _, none => inv.finish 1 "" (inv.message "missing file operand" ++ inv.tryHelp)
    | [], some d =>
      inv.finish 1 "" (inv.message ("missing destination file operand after " ++ quoteAlways d) ++ inv.tryHelp)
    | _, some d =>
      let isDir := inv.tree.isDirAt inv.cwd d
      if (srcs.length > 1 || forceInto) && !isDir then
        if forceInto then
          inv.finish 1 "" (inv.message ("target directory " ++ quoteAlways d ++ ": " ++
            errnoText (match inv.tree.stat inv.cwd d with
              | .error e => e
              | _ => .notDir)))
        else inv.finish 1 "" (inv.message ("target " ++ quoteAlways d ++ ": " ++ errnoText
            (match inv.tree.stat inv.cwd d with
              | .error e => e
              | _ => .notDir)))
      else
        let into := isDir && !opts.has "T"
        let (tree, writes) := srcs.foldl (fun (acc : FileTree × List Write) src =>
          let (t, ws) := transfer inv rules acc.1 src d into
          (t, acc.2 ++ ws)) (inv.tree, [])
        { status := if (errText writes).isEmpty then 0 else 1, writes, tree, input := inv.input }

/-- `cp`: copies files, and directories with `-r`. -/
def cp (inv : Invocation) : Completion :=
  copyOrMove false inv

/-- `mv`: moves files and directories. -/
def mv (inv : Invocation) : Completion :=
  copyOrMove true inv

/-! ## Removing and making -/

/-- What removing the node at `p` (written `shown`) and all below it goes through: each file
where a walk by name meets it, each directory after what it holds, as written and whether it is
a directory. -/
def removalSteps (t : FileTree) : Nat → List String → String → List (String × Bool)
  | 0, _, _ => []
  | fuel + 1, p, shown =>
    match t.get? p with
    | some .dir =>
      ((t.children p).flatMap fun (name, _) => removalSteps t fuel (p ++ [name]) (joinShown shown name)) ++
        [(shown, true)]
    | some _ => [(shown, false)]
    | none => []

/-- `rm`: removes files, directories with `-r`, empty ones with `-d`; `-v` tells each removal. -/
def rm (inv : Invocation) : Completion :=
  let specs : List OptSpec := [
    { key := "d", short := some 'd', long := some "dir" },
    { key := "f", short := some 'f', long := some "force" },
    { key := "i", short := some 'i' },
    { key := "I", short := some 'I' },
    { key := "interactive", long := some "interactive", arg := .optional },
    { key := "one-file-system", long := some "one-file-system" },
    { key := "no-preserve-root", long := some "no-preserve-root" },
    { key := "preserve-root", long := some "preserve-root", arg := .optional },
    { key := "r", short := some 'r', long := some "recursive" },
    { key := "r", short := some 'R' },
    { key := "v", short := some 'v', long := some "verbose" },
    { key := "help", long := some "help" },
    { key := "version", long := some "version" }]
  match parseOptions specs false inv.args with
  | .error e => inv.optionFailure 1 e
  | .ok (opts, operands) =>
    let force := (opts.filter fun (k, _) => k == "f" || k == "i" || k == "I").getLast?.any (·.1 == "f")
    if operands.isEmpty then
      if force then inv.finish 0 "" "" else inv.finish 1 "" (missingOperand inv)
    else
      let recursive := opts.has "r"
      let verbose := opts.has "v"
      let (tree, writes) := operands.foldl (fun (acc : FileTree × List Write) p =>
        let (t, ws) := acc
        let fail (reason : String) : FileTree × List Write :=
          (t, addErr ws (inv.message ("cannot remove " ++ quoteAlways p ++ ": " ++ reason)))
        let note (dir : Bool) (shown : String) : String :=
          if verbose then (if dir then "removed directory " else "removed ") ++ quoteAlways shown ++ "\n" else ""
        let lastPart := lastElement p
        match t.locate inv.cwd p with
        | .error e => if force && e == .noEntry then acc else fail (errnoText e)
        | .ok pl =>
          match t.get? pl.full with
          | none => if force then acc else fail (errnoText .noEntry)
          | some .dir =>
            let empty := (t.children pl.full).isEmpty
            if !recursive && !(opts.has "d" && empty) then
              fail (if opts.has "d" then "Directory not empty" else errnoText .isDir)
            else if lastPart == "." || lastPart == ".." then
              (t, addErr ws (inv.message ("refusing to remove \x27.\x27 or \x27..\x27 directory: skipping " ++ quoteAlways p)))
            else if recursive then
              let steps := removalSteps t (t.nodes.length + 1) pl.full p
              ((subtree t pl.full).foldl (fun t (rel, _) => t.erase (pl.full ++ rel)) t,
                addOut ws (String.join (steps.map fun (shown, dir) => note dir shown)))
            else (t.erase pl.full, addOut ws (note true p))
          | some (.file _ _) =>
            if pl.trailingSlash then fail (errnoText .notDir) else (t.erase pl.full, addOut ws (note false p))) (inv.tree, [])
      { status := if (errText writes).isEmpty then 0 else 1, writes, tree, input := inv.input }

/-- The directories a path names on its way, as written: the text before each `/` that ends a
name, then the whole path. -/
def directoryPrefixes (d : String) : List String :=
  let cs := d.toList
  let cuts := (List.range cs.length).filter fun i =>
    i > 0 && cs.getD i ' ' == '/' && cs.getD (i - 1) ' ' != '/'
  (cuts.map fun i => String.ofList (cs.take i)) ++ [d]

/-- `mkdir`: creates directories, with their parents when `-p` is given. -/
def mkdir (inv : Invocation) : Completion :=
  let specs : List OptSpec := [
    { key := "m", short := some 'm', long := some "mode", arg := .required },
    { key := "p", short := some 'p', long := some "parents" },
    { key := "v", short := some 'v', long := some "verbose" },
    { key := "Z", short := some 'Z' },
    { key := "Z", long := some "context", arg := .optional },
    { key := "help", long := some "help" },
    { key := "version", long := some "version" }]
  match parseOptions specs false inv.args with
  | .error e => inv.optionFailure 1 e
  | .ok (opts, operands) =>
    let requested : Except String (Option Nat) := match opts.last? "m" with
      | some m =>
        match readMode m with
        | some changes => .ok (some (applyMode changes 0o777 true inv.mask))
        | none => .error m
      | none => .ok none
    match requested with
    | .error m => inv.finish 1 "" (inv.message ("invalid mode " ++ quoteName m))
    | .ok requested =>
    if operands.isEmpty then inv.finish 1 "" (missingOperand inv)
    else
      let parents := opts.has "p"
      let (tree, out, err) := operands.foldl (fun (acc : FileTree × String × String) d =>
        let (t, out, err) := acc
        let (t', failure) :=
          if parents then t.mkdirAllKeeping inv.cwd d
          else
            match t.mkdir inv.cwd d with
            | .ok t' => (t', none)
            | .error e => (t, some e)
        -- each directory made is announced, the missing parents of `-p` first
        let made := (directoryPrefixes d).filter fun q => !t.isDirAt inv.cwd q && t'.isDirAt inv.cwd q
        -- a directory made gets the bits the mask leaves, or those of `-m`; parents also
        -- keep the owner's write and search bits
        let t' := made.foldl (fun t q =>
          match t.locate inv.cwd q with
          | .ok pl =>
            if q == d then
              match requested with
              | some m => if m == 0o755 then t else t.setMode pl.full m
              | none => t.madeWith pl.full 0o777 inv.mask
            else t.madeWith pl.full (Nat.lor (Nat.land 0o777 (511 - inv.mask % 512)) 0o300) 0
          | .error _ => t) t'
        let note := if opts.has "v" then
            String.join (made.map fun q => inv.message ("created directory " ++ quoteAlways q)) else ""
        match failure with
        | none => (t', out ++ note, err)
        | some e => (t', out, err ++ inv.message ("cannot create directory " ++ quoteName d ++ ": " ++
            errnoText e.errno))) (inv.tree, "", "")
      { status := if err.isEmpty then 0 else 1, writes := outThenErr out err, tree, input := inv.input }

/-- Removes an empty directory, or tells why it cannot: a path that does not lead to a
directory, one whose last element is `.` (refused) or `..` (never empty), or one with
entries. -/
def removeEmptyDir (t : FileTree) (cwd : List String) (d : String) : Except String FileTree :=
  match t.locate cwd d with
  | .error e => .error (errnoText e)
  | .ok pl =>
    match t.get? pl.full with
    | none => .error (errnoText .noEntry)
    | some (.file _ _) => .error (errnoText .notDir)
    | some .dir =>
      let last := lastElement d
      if last == "." then .error "Invalid argument"
      else if last == ".." || !(t.children pl.full).isEmpty then .error "Directory not empty"
      else .ok (t.erase pl.full)

/-- The directories `rmdir -p` removes after a path, as written: the path cut at each of its
slashes from the right, the slashes in a row before the cut dropped with it. -/
def parentPaths (d : String) : List String :=
  let rec go : Nat → List Char → List String
    | 0, _ => []
    | fuel + 1, cs =>
      match (cs.reverse.dropWhile (· != '/')) with
      | [] => []
      | _ :: before =>
        let kept := (before.dropWhile (· == '/')).reverse
        let kept := if kept.isEmpty then ['/'] else kept
        if kept == ['/'] then [String.ofList kept] else String.ofList kept :: go fuel kept
  let trimmed := (d.toList.reverse.dropWhile (· == '/')).reverse
  go (d.length + 1) (if trimmed.isEmpty then d.toList else trimmed)

/-- `rmdir`: removes empty directories; with `-p` also the directories the path names on the
way, from the deepest, stopping at the first that cannot go. With `-v` it tells each removal it
tries. -/
def rmdir (inv : Invocation) : Completion :=
  let specs : List OptSpec := [
    { key := "ignore", long := some "ignore-fail-on-non-empty" },
    { key := "p", short := some 'p', long := some "parents" },
    { key := "v", short := some 'v', long := some "verbose" },
    { key := "help", long := some "help" },
    { key := "version", long := some "version" }]
  match parseOptions specs false inv.args with
  | .error e => inv.optionFailure 1 e
  | .ok (opts, operands) =>
    if operands.isEmpty then inv.finish 1 "" (missingOperand inv)
    else
      let announce (ws : List Write) (d : String) : List Write :=
        if opts.has "v" then addOut ws (inv.message ("removing directory, " ++ quoteAlways d)) else ws
      let ignorable (reason : String) : Bool := opts.has "ignore" && reason == "Directory not empty"
      -- the parents of a removed directory, until one cannot go
      let parents (start : FileTree × List Write × Bool) (d : String) : FileTree × List Write × Bool :=
        (parentPaths d).foldl (fun (acc : (FileTree × List Write × Bool) × Bool) p =>
          let ((t, ws, failed), stopped) := acc
          if stopped then acc
          else
            let ws := announce ws p
            match removeEmptyDir t inv.cwd p with
            | .ok t => ((t, ws, failed), false)
            | .error reason =>
              if ignorable reason then ((t, ws, failed), true)
              else
                let what := if reason == errnoText .notDir then "failed to remove " else "failed to remove directory "
                ((t, addErr ws (inv.message (what ++ quoteAlways p ++ ": " ++ reason)), true), true))
          (start, false) |>.1
      let (tree, writes, failed) := operands.foldl (fun (acc : FileTree × List Write × Bool) d =>
        let (t, ws, failed) := acc
        let ws := announce ws d
        match removeEmptyDir t inv.cwd d with
        | .ok t => if opts.has "p" then parents (t, ws, failed) d else (t, ws, failed)
        | .error reason =>
          if ignorable reason then (t, ws, failed)
          else (t, addErr ws (inv.message ("failed to remove " ++ quoteAlways d ++ ": " ++ reason)), true))
        (inv.tree, [], false)
      { status := if failed then 1 else 0, writes, tree, input := inv.input }

/-- `touch`: creates the files that are missing. -/
def touch (inv : Invocation) : Completion :=
  let specs : List OptSpec := [
    { key := "a", short := some 'a' },
    { key := "c", short := some 'c', long := some "no-create" },
    { key := "d", short := some 'd', long := some "date", arg := .required },
    { key := "f", short := some 'f' },
    { key := "h", short := some 'h', long := some "no-dereference" },
    { key := "m", short := some 'm' },
    { key := "r", short := some 'r', long := some "reference", arg := .required },
    { key := "t", short := some 't', arg := .required },
    { key := "time", long := some "time", arg := .required },
    { key := "help", long := some "help" },
    { key := "version", long := some "version" }]
  match parseOptions specs false inv.args with
  | .error e => inv.optionFailure 1 e
  | .ok (opts, operands) =>
    if operands.isEmpty then inv.finish 1 "" (inv.message "missing file operand" ++ inv.tryHelp)
    else
      let (tree, err) := operands.foldl (fun (acc : FileTree × String) f =>
        match acc.1.stat inv.cwd f with
        | .ok _ => acc
        | .error _ =>
          if opts.has "c" then acc
          else
            match acc.1.writeFile inv.cwd f "" with
            | .ok t =>
              match t.locate inv.cwd f with
              | .ok pl => (t.madeWith pl.full 0o666 inv.mask, acc.2)
              | .error _ => (t, acc.2)
            | .error e =>
              (acc.1, acc.2 ++ inv.message ("cannot touch " ++ quoteAlways f ++ ": " ++ errnoText e.errno))) (inv.tree, "")
      { status := if err.isEmpty then 0 else 1, writes := outThenErr "" err, tree, input := inv.input }

/-- What `chmod` is asked to do besides changing bits: go through directories (`-R`), tell
each file (`-v`) or each change (`-c`), keep quiet about failures (`-f`). -/
structure ChmodRules where
  changes : List ModeChange
  mask : Nat
  recursive : Bool
  verbose : Bool
  changesOnly : Bool
  quiet : Bool
  deriving Repr, Inhabited

/-- The line `chmod -v` writes for a file whose bits went from `old` to `new`. -/
def modeNote (shown : String) (old new : Nat) : String :=
  if old == new then
    "mode of " ++ quoteAlways shown ++ " retained as " ++ octalMode new ++ " (" ++ modeLetters new ++ ")\n"
  else
    "mode of " ++ quoteAlways shown ++ " changed from " ++ octalMode old ++ " (" ++ modeLetters old ++
      ") to " ++ octalMode new ++ " (" ++ modeLetters new ++ ")\n"

/-- Changes the bits of the node at `p` (written `shown`) and, going through directories, of
what is below it, each directory before what it holds: a directory is read and its entries
reached only when its new bits let the owner read and search it. The tree, what was written
and whether all went well. -/
def chmodWalk (inv : Invocation) (rules : ChmodRules) :
    Nat → FileTree × List Write × Bool → List String → String → FileTree × List Write × Bool
  | 0, acc, _, _ => acc
  | fuel + 1, (t, ws, ok), p, shown =>
    match t.get? p with
    | none => (t, ws, ok)
    | some node =>
      let dir := node == .dir
      let old := t.modeOf p
      let new := applyMode rules.changes old dir rules.mask
      let t := if new == old then t else t.setMode p new
      let ws := if rules.verbose || (rules.changesOnly && new != old) then addOut ws (modeNote shown old new) else ws
      let complain (ws : List Write) (m : String) : List Write :=
        if rules.quiet then ws else addErr ws (inv.message m)
      if !(rules.recursive && dir) then (t, ws, ok)
      else if new / 256 % 2 == 0 then
        (t, complain ws ("cannot read directory " ++ quoteAlways shown ++ ": " ++ errnoText .permissionDenied), false)
      else
        (t.children p).foldl (fun (acc : FileTree × List Write × Bool) (name, _) =>
          let (t, ws, ok) := acc
          let below := joinShown shown name
          if new / 64 % 2 == 0 then
            let ws := complain ws ("cannot access " ++ quoteAlways below ++ ": " ++ errnoText .permissionDenied)
            (t, (if rules.verbose then addOut ws (quoteAlways below ++ " could not be accessed\n") else ws), false)
          else chmodWalk inv rules fuel (t, ws, ok) (p ++ [name]) below) (t, ws, ok)

/-- `chmod`: changes the permission bits of files, by an octal or a symbolic mode. -/
def chmod (inv : Invocation) : Completion :=
  let isMode (a : String) : Bool :=
    a.length ≥ 2 && (a.startsWith "-" || a.startsWith "+") && (a.drop 1).toString.all (fun c => "rwxXst".toList.contains c)
  -- a mode such as -x is not an option
  let (modeArgs, rest) := match inv.args.find? isMode with
    | some m => ([m], inv.args.erase m)
    | none => ([], inv.args)
  let specs : List OptSpec := [
    { key := "c", short := some 'c', long := some "changes" },
    { key := "f", short := some 'f', long := some "silent" },
    { key := "f", long := some "quiet" },
    { key := "v", short := some 'v', long := some "verbose" },
    { key := "R", short := some 'R', long := some "recursive" },
    { key := "reference", long := some "reference", arg := .required },
    { key := "help", long := some "help" },
    { key := "version", long := some "version" }]
  match parseOptions specs false rest with
  | .error e => inv.optionFailure 1 e
  | .ok (opts, operands) =>
    let operands := modeArgs ++ operands
    match operands with
    | [] => inv.finish 1 "" (missingOperand inv)
    | [m] => inv.finish 1 "" (inv.message ("missing operand after " ++ quoteName m) ++ inv.tryHelp)
    | mode :: files =>
      match readMode mode with
      | none => inv.finish 1 "" (inv.message ("invalid mode: " ++ quoteName mode) ++ inv.tryHelp)
      | some changes =>
        let rules : ChmodRules :=
          { changes, mask := inv.mask, recursive := opts.has "R", verbose := opts.has "v"
            changesOnly := opts.has "c", quiet := opts.has "f" }
        let (tree, writes, ok) := files.foldl (fun (acc : FileTree × List Write × Bool) f =>
          let (t, ws, _) := acc
          let missing (e : Errno) : FileTree × List Write × Bool :=
            let ws := if rules.quiet then ws else addErr ws (inv.message ("cannot access " ++ quoteAlways f ++ ": " ++ errnoText e))
            (t, (if rules.verbose then addOut ws (quoteAlways f ++ " could not be accessed\n") else ws), false)
          match t.locate inv.cwd f with
          | .error e => missing e
          | .ok pl =>
            match t.get? pl.full with
            | some _ =>
              let (t, ws, ok) := chmodWalk inv rules (t.nodes.length + 1) (t, ws, acc.2.2) pl.full f
              (t, ws, ok)
            | none => missing .noEntry) (inv.tree, [], true)
        { status := if ok then 0 else 1, writes, tree, input := inv.input }

/-- The letters `ls` knows without an argument. -/
def lsLetters : String := "abcdfghiklmnopqrstuvxABCDFGHLNQRSUXZ1"

/-- A name as `ls -Q` writes it: in double quotes, with quotes, backslashes and control
characters escaped. -/
def lsQuoted (n : String) : String :=
  "\"" ++ String.join (n.toList.map fun c =>
    if c == '"' then "\\\"" else if c == '\\' then "\\\\"
    else if c == '\n' then "\\n" else if c == '\t' then "\\t" else String.singleton c) ++ "\""

/-- Names separated by commas, as `ls -m` writes them: a line is broken before a name that
would reach the column `width` (no breaks when it is 0). -/
def lsCommaLines (width : Nat) (names : List String) : String :=
  let (out, _) := names.zipIdx.foldl (fun (acc : String × Nat) (n, i) =>
    let (out, pos) := acc
    if i == 0 then (out ++ n, n.length)
    else if width == 0 || pos + n.length + 2 < width then (out ++ ", " ++ n, pos + 2 + n.length)
    else (out ++ ",\n" ++ n, n.length)) ("", 0)
  if names.isEmpty then "" else out ++ "\n"

/-- The blanks from one column to another: tabs where a tab stop is reached before the end,
spaces for the rest. -/
def lsIndent (tab : Nat) : Nat → Nat → Nat → String
  | 0, _, _ => ""
  | fuel + 1, start, stop =>
    if start ≥ stop then ""
    else if tab != 0 && stop / tab > (start + 1) / tab then
      "\t" ++ lsIndent tab fuel (start + tab - start % tab) stop
    else " " ++ lsIndent tab fuel (start + 1) stop

/-- The widths of the columns of names laid out in `cols` columns, down the columns
(`byColumns`) or across the lines: each the longest name in it, and two more but for the last
column. -/
def lsColumnWidths (byColumns : Bool) (lengths : List Nat) (cols : Nat) : List Nat :=
  let n := lengths.length
  let rows := (n + cols - 1) / cols
  (List.range cols).map fun c =>
    let inColumn := lengths.zipIdx.filter fun (_, i) =>
      (if byColumns then i / (max rows 1) else i % cols) == c
    inColumn.foldl (fun w (len, _) => max w (len + (if c + 1 == cols then 0 else 2))) 0

/-- The most columns, up to one for each name and one for every three places of the width,
whose widths add up to less than the width. -/
def lsColumnCount (byColumns : Bool) (width : Nat) (lengths : List Nat) : Nat :=
  let most := min lengths.length (if width == 0 then lengths.length else max 1 (width / 3))
  let fits (cols : Nat) : Bool :=
    width == 0 || (lsColumnWidths byColumns lengths cols).foldl (· + ·) 0 < width
  ((List.range most).reverse.map (· + 1)).find? fits |>.getD 1

/-- Names in columns, as `ls -C` (down the columns) and `ls -x` (across) write them, blanks
between them by `lsIndent`. -/
def lsColumns (byColumns : Bool) (width tab : Nat) (names : List String) : String :=
  if names.isEmpty then ""
  else
    let lengths := names.map String.length
    let cols := lsColumnCount byColumns width lengths
    let widths := lsColumnWidths byColumns lengths cols
    let n := names.length
    let rows := (n + cols - 1) / cols
    let cell (r c : Nat) : Option Nat :=
      let i := if byColumns then c * rows + r else r * cols + c
      if i < n then some i else none
    String.join ((List.range rows).map fun r =>
      let present := (List.range cols).filterMap fun c => (cell r c).map (c, ·)
      let (line, _) := present.zipIdx.foldl (fun (acc : String × Nat) ((c, i), k) =>
        let (line, pos) := acc
        let name := names.getD i ""
        let next := pos + widths.getD c 0
        if k + 1 == present.length then (line ++ name, next)
        else (line ++ name ++ lsIndent tab (width + next + 1) (pos + name.length) next, next)) ("", 0)
      line ++ "\n")

/-- How `ls` lays out its names. -/
inductive LsFormat where
  | perLine
  | columns
  | across
  | commas
  | long
  deriving Repr, DecidableEq, Inhabited

/-- The extension of a name for `ls -X`: from its last point on, or nothing. -/
def lsExtension (n : String) : String :=
  match (n.toList.reverse.takeWhile (· != '.')).length, n.contains '.' with
  | k, true => String.ofList (n.toList.drop (n.length - k - 1))
  | _, false => ""

/-- The size `ls -l` gives a node: the bytes of a file, a block for a directory. -/
def lsSize (n : Node) : Nat :=
  match n with
  | .file c _ => Utf8.byteSize c
  | .dir => 4096

/-- The blocks of a kibibyte a node takes, as `ls -l` adds them up in its `total` line. -/
def lsBlocks (n : Node) : Nat :=
  match n with
  | .file c _ => (Utf8.byteSize c + 4095) / 4096 * 4
  | .dir => 4

/-- Text padded with spaces on the left to a width. -/
def lsPadLeft (w : Nat) (s : String) : String :=
  String.ofList (List.replicate (w - s.length) ' ') ++ s

/-- `ls`: lists files and the contents of directories, one name a line, in columns (`-C`,
`-x`), separated by commas (`-m`) or with their modes and sizes (`-l`); `-R` lists the
directories below too. Names are sorted by their bytes, or by extension (`-X`), as versions
(`-v`) or by size (`-S`). -/
def ls (inv : Invocation) : Completion :=
  let specs : List OptSpec := flags lsLetters ++ [
    { key := "w", short := some 'w', long := some "width", arg := .required },
    { key := "I", short := some 'I', long := some "ignore", arg := .required },
    { key := "T", short := some 'T', long := some "tabsize", arg := .required },
    { key := "a", long := some "all" },
    { key := "A", long := some "almost-all" },
    { key := "d", long := some "directory" },
    { key := "F", long := some "classify", arg := .optional },
    { key := "r", long := some "reverse" },
    { key := "R", long := some "recursive" },
    { key := "Q", long := some "quote-name" },
    { key := "B", long := some "ignore-backups" },
    { key := "color", long := some "color", arg := .optional },
    { key := "help", long := some "help" },
    { key := "version", long := some "version" }]
  match parseOptions specs false inv.args with
  | .error e => inv.optionFailure 2 e
  | .ok (opts, operands) =>
    let unsorted := opts.has "U" || opts.has "f"
    let sortKey := (opts.filter fun (k, _) => k == "X" || k == "v" || k == "S" || k == "U").getLast?.map (·.1)
    -- the order of two entries by the sort asked for, the name last
    let before (a b : String × Node) : Bool :=
      let byName := compareBytes a.1 b.1
      let o := match sortKey with
        | some "X" => (compareBytes (lsExtension a.1) (lsExtension b.1)).then byName
        | some "v" => (compareVersion a.1 b.1).then byName
        | some "S" => (compare (lsSize b.2) (lsSize a.2)).then byName
        | _ => byName
      (if opts.has "r" then o.swap else o) != .gt
    let sortEntries (es : List (String × Node)) : List (String × Node) :=
      if unsorted then es else es.mergeSort before
    let format : LsFormat := opts.foldl (fun f (k, _) =>
      if k == "l" || k == "g" || k == "o" || k == "n" then .long
      else if k == "1" then (if f == .long then f else .perLine)
      else if k == "C" then .columns
      else if k == "x" then .across
      else if k == "m" then .commas
      else f) .perLine
    let envWidth := (inv.env.find? (·.1 == "COLUMNS")).bind fun (_, v) => v.toNat?
    let width := ((opts.last? "w").bind String.toNat?).getD ((envWidth.filter (· > 0)).getD 80)
    let tab := if width == 0 then 0 else ((opts.last? "T").bind String.toNat?).getD 8
    let showName (n : String) : String := if opts.has "Q" then lsQuoted n else n
    let mark (n : String) (node : Node) : String :=
      if opts.has "F" || opts.has "p" then
        match node with
        | .dir => showName n ++ "/"
        | .file _ x => if x && opts.has "F" then showName n ++ "*" else showName n
      else showName n
    -- one line of the long format for each entry, the columns as wide as their widest
    let longLines (items : List (String × String × Node × List String)) : String :=
      let owner := if opts.has "n" then "0" else "root"
      let links (full : List String) (node : Node) : Nat :=
        match node with
        | .dir => 2 + ((inv.tree.children full).filter fun (_, n) => n == .dir).length
        | .file _ _ => 1
      let cells := items.map fun (shown, _, node, full) =>
        let kind := if node == .dir then "d" else "-"
        (kind ++ modeLetters (inv.tree.modeOf full), toString (links full node), toString (lsSize node), shown)
      let linkWidth := cells.foldl (fun w (_, l, _, _) => max w l.length) 0
      let sizeWidth := cells.foldl (fun w (_, _, z, _) => max w z.length) 0
      String.join (cells.map fun (mode, l, z, shown) =>
        mode ++ " " ++ lsPadLeft linkWidth l ++ (if opts.has "g" then "" else " " ++ owner) ++
          (if opts.has "o" then "" else " " ++ owner) ++ " " ++ lsPadLeft sizeWidth z ++
          " Jan  1 00:00 " ++ shown ++ "\n")
    let lay (items : List (String × String × Node × List String)) : String :=
      let names := items.map (·.1)
      match format with
      | .commas => lsCommaLines width names
      | .columns => lsColumns true width tab names
      | .across => lsColumns false width tab names
      | .long => longLines items
      | .perLine => String.join (names.map (· ++ "\n"))
    let ignored := opts.all "I"
    let entries (dir : List String) : List (String × Node) :=
      let kids := inv.tree.children dir
      let kids := if opts.has "a" || opts.has "A" || opts.has "f" then kids
        else kids.filter fun (n, _) => !n.startsWith "."
      let kids := if opts.has "B" then kids.filter fun (n, _) => !n.endsWith "~" else kids
      let kids := kids.filter fun (n, _) => !ignored.contains n
      let dots := if opts.has "a" || opts.has "f" then [(".", Node.dir), ("..", Node.dir)] else []
      sortEntries (dots ++ kids)
    let listing (dir : List String) : String :=
      let es := entries dir
      let items := es.map fun (n, node) =>
        let full := if n == "." then dir else if n == ".." then dir.dropLast else dir ++ [n]
        (mark n node, n, node, full)
      let total := if format == .long then
          "total " ++ toString (es.foldl (fun s (_, node) => s + lsBlocks node) 0) ++ "\n"
        else ""
      total ++ lay items
    -- the directories below a directory, depth first, with the path they are shown by
    let rec below : Nat → String → List String → List (String × List String)
      | 0, _, _ => []
      | fuel + 1, shown, dir =>
        ((entries dir).filter fun (n, node) => node == .dir && n != "." && n != "..").flatMap fun (n, _) =>
          let sub := (if shown.endsWith "/" then shown else shown ++ "/") ++ n
          (sub, dir ++ [n]) :: below fuel sub (dir ++ [n])
    let operands := if operands.isEmpty then ["."] else operands
    let found := operands.map fun p => (p, inv.tree.locate inv.cwd p |>.toOption.bind fun pl =>
      (inv.tree.get? pl.full).map (pl.full, ·))
    let err := String.join (found.filterMap fun (p, r) =>
      if r.isNone then some (inv.message ("cannot access " ++ quoteAlways p ++ ": " ++ errnoText .noEntry)) else none)
    let located := found.filterMap fun (p, r) => r.map fun (full, node) => (p, full, node)
    let files := sortEntries (located.filterMap fun (p, _, node) =>
      if node == .dir && !opts.has "d" then none else some (p, node))
    let dirs := if opts.has "d" then [] else sortEntries (located.filterMap fun (p, _, node) =>
      if node == .dir then some (p, node) else none)
    let fullOf (p : String) : List String := ((located.find? (·.1 == p)).map (·.2.1)).getD []
    let fileText := lay (files.map fun (f, node) => (mark f node, f, node, fullOf f))
    let recursive := opts.has "R"
    let headed := operands.length > 1 || recursive
    let dirTexts := dirs.flatMap fun (d, _) =>
      let full := fullOf d
      let subs := if recursive then below (inv.tree.nodes.length + 1) d full else []
      ((d, full) :: subs).map fun (shown, path) =>
        (if headed then shown ++ ":\n" else "") ++ listing path
    let out := fileText ++ (if !fileText.isEmpty && !dirTexts.isEmpty then "\n" else "") ++
      "\n".intercalate dirTexts
    { status := if err.isEmpty then 0 else 2, writes := outThenErr out err, tree := inv.tree, input := inv.input }

end Regress.Shell
