import Regress.Cli.App

/-!
# The command line

`main` runs a command line on the files under the working directory. It reads them into a file
tree, runs the command on that tree, prints what the command printed, writes back the files and
directories the command created, changed or removed, and exits with the command's status. A
failure that was not already reported is printed on standard error first.

Only the working directory is read: a corpus, a configuration file or a tool outside it is not
seen. A file counts as executable when it starts with an interpreter line. The programs started
see the search path, the temporary directory, the locale and the variables that configure a run.
-/

namespace Regress.Cli

/-- The variables of the environment that a run reads or passes on. -/
def passedVariables : List String :=
  ["PATH", "HOME", "TMPDIR", "LC_ALL", "LANG", Config.envCorpusRoot, Config.envGroups,
    Config.envCompiler, Config.envInterpreter, Config.envOutputDir]

/-- Reads a directory entry and everything under it, at most `depth` levels deep. Entries that
cannot be read are left out. -/
partial def loadEntry (depth : Nat) (e : IO.FS.DirEntry) : IO (List (List String × Node)) := do
  let path := e.path
  let key := FileTree.elements (toString path)
  if ← path.isDir then
    if depth == 0 then return [(key, .dir)]
    let entries ← try path.readDir catch _ => pure #[]
    let inner ← entries.toList.mapM (loadEntry (depth - 1))
    return (key, .dir) :: inner.flatten
  else
    try
      let content := Utf8.decode (← IO.FS.readBinFile path).toList
      return [(key, .file content (content.startsWith "#!"))]
    catch _ =>
      return []

/-- Writes back what a command changed in the tree under the working directory. -/
def writeBack (cwd : List String) (before after : FileTree) : IO Unit := do
  let under (p : List String) : Bool := p.length > cwd.length && p.take cwd.length == cwd
  let text (p : List String) : String := "/" ++ "/".intercalate p
  for (p, n) in after.nodes.reverse do
    if under p && before.get? p != some n then
      match n with
      | .dir => IO.FS.createDirAll (text p)
      | .file content _ => IO.FS.writeBinFile (text p) (ByteArray.mk (Utf8.octets content).toArray)
  for (p, n) in before.nodes do
    if under p && (after.get? p).isNone then
      match n with
      | .dir => try IO.FS.removeDirAll (text p) catch _ => pure ()
      | .file _ _ => try IO.FS.removeFile (text p) catch _ => pure ()

end Regress.Cli

open Regress in
/-- Runs the program on its command line. -/
def main (args : List String) : IO UInt32 := do
  let here ← IO.currentDir
  let cwd := FileTree.elements (toString here)
  let entries ← here.readDir
  let loaded ← entries.toList.mapM (Cli.loadEntry 32)
  let before : FileTree := { nodes := loaded.flatten ++ (FileTree.within cwd).nodes }
  let mut env : Environment := ⟨[]⟩
  for name in Cli.passedVariables do
    if let some v ← IO.getEnv name then env := env.set name v
  let (failure, s) := Cli.runCommandLine args before cwd env
  (← IO.getStdout).write (ByteArray.mk (Utf8.octets s.out).toArray)
  (← IO.getStderr).write (ByteArray.mk (Utf8.octets s.err).toArray)
  Cli.writeBack cwd before s.tree
  if let some f := failure then
    if f.kind == .crash then
      (← IO.getStderr).write (ByteArray.mk (Utf8.octets ("panic: " ++ f.message ++ "\n")).toArray)
    else if !Failure.silent (some f) then
      (← IO.getStderr).write (ByteArray.mk (Utf8.octets ("Error: " ++ f.message ++ "\n")).toArray)
  return (Failure.exitStatus failure).toNat.toUInt32
