import Regress.Shell.State
import Regress.Shell.Utility.Text
import Regress.Shell.Utility.Files
import Regress.Shell.Utility.Grep
import Regress.Shell.Utility.Sed
import Regress.Shell.Utility.Transform
import Regress.Shell.Utility.Sort
import Regress.Shell.Utility.Expr
import Regress.Shell.Utility.Print
import Regress.Shell.Utility.Dump
import Regress.Shell.Utility.Lines
import Regress.Shell.Utility.Digest
import Regress.Shell.Utility.Compare
import Regress.Shell.Utility.Host
import Regress.Shell.Utility.Join

/-!
# The programs of the system

The programs installed in `/usr/bin` (and so in `/bin`, which is the same directory): the
shells, `env`, which starts another program, and the utilities, each a function from what it
starts with to what it leaves.
-/

namespace Regress.Shell

/-- The directories of the system's programs. -/
def systemDirs : List String := ["/usr/bin", "/bin"]

/-- A program of the system that starts another program: `xargs` with arguments read from its
input, `timeout`, `nice` and `nohup` as they are, and `awk`, whose programs run commands. -/
inductive Launcher where
  | xargs
  | timeout
  | nice
  | nohup
  | awk
  deriving Repr, DecidableEq, Inhabited

/-- A program of the system: a shell, `env`, a program that starts others, a shell script, or
a utility. -/
inductive SystemProgram where
  | shell (dialect : Dialect)
  | env
  | launcher (kind : Launcher)
  | script (text : String)
  | utility (run : Invocation → Completion)

/-- The script `which`: each name found on the search path, the first place or with `-a` all. -/
def whichScript : String :=
  "#!/bin/sh\nset -ef\n\nif test -n \"$KSH_VERSION\"; then\n\tputs() \x7b\n\t\tprint -r -- \"$*\"\n\t\x7d\nelse\n\tputs() \x7b\n\t\tprintf \x27%s\\n\x27 \"$*\"\n\t\x7d\nfi\n\n" ++
  "ALLMATCHES=0\n\nwhile getopts a whichopts\ndo\n\tcase \"$whichopts\" in\n\t\ta) ALLMATCHES=1 ;;\n\t\t?) puts \"Usage: $0 [-a] args\"; exit 2 ;;\n\tesac\ndone\nshift $(($OPTIND - 1))\n\n" ++
  "if [ \"$#\" -eq 0 ]; then\n\tALLRET=1\nelse\n\tALLRET=0\nfi\ncase $PATH in\n\t(*[!:]:) PATH=\"$PATH:\" ;;\nesac\n" ++
  "for PROGRAM in \"$@\"; do\n\tRET=1\n\tIFS_SAVE=\"$IFS\"\n\tIFS=:\n\tcase $PROGRAM in\n\t\t*/*)\n\t\t\tif [ -f \"$PROGRAM\" ] && [ -x \"$PROGRAM\" ]; then\n\t\t\t\tputs \"$PROGRAM\"\n\t\t\t\tRET=0\n\t\t\tfi\n\t\t\t;;\n" ++
  "\t\t*)\n\t\t\tfor ELEMENT in $PATH; do\n\t\t\t\tif [ -z \"$ELEMENT\" ]; then\n\t\t\t\t\tELEMENT=.\n\t\t\t\tfi\n\t\t\t\tif [ -f \"$ELEMENT/$PROGRAM\" ] && [ -x \"$ELEMENT/$PROGRAM\" ]; then\n\t\t\t\t\tputs \"$ELEMENT/$PROGRAM\"\n\t\t\t\t\tRET=0\n\t\t\t\t\t[ \"$ALLMATCHES\" -eq 1 ] || break\n\t\t\t\tfi\n\t\t\tdone\n\t\t\t;;\n\tesac\n\tIFS=\"$IFS_SAVE\"\n\tif [ \"$RET\" -ne 0 ]; then\n\t\tALLRET=1\n\tfi\ndone\n\nexit \"$ALLRET\"\n"

/-- The scripts `egrep` and `fgrep`: `grep` with an option. -/
def grepScript (option : String) : String :=
  "#!/bin/sh\nexec grep " ++ option ++ " \"$@\"\n"

/-- The program of the system with a name, if there is one. -/
def systemProgram? (name : String) : Option SystemProgram :=
  match name with
  | "sh" | "dash" => some (.shell .posix)
  | "bash" => some (.shell .bash)
  | "env" => some .env
  | "xargs" => some (.launcher .xargs)
  | "timeout" => some (.launcher .timeout)
  | "nice" => some (.launcher .nice)
  | "nohup" => some (.launcher .nohup)
  | "awk" | "mawk" | "nawk" => some (.launcher .awk)
  | "which" => some (.script whichScript)
  | "egrep" => some (.script (grepScript "-E"))
  | "fgrep" => some (.script (grepScript "-F"))
  | "nl" => some (.utility nl)
  | "paste" => some (.utility paste)
  | "fold" => some (.utility fold)
  | "comm" => some (.utility comm)
  | "join" => some (.utility join)
  | "yes" => some (.utility yes)
  | "md5sum" => some (.utility (digestUtility "MD5" md5))
  | "sha1sum" => some (.utility (digestUtility "SHA1" sha1))
  | "sha256sum" => some (.utility (digestUtility "SHA256" sha256))
  | "cksum" => some (.utility cksum)
  | "sum" => some (.utility sum)
  | "base64" => some (.utility base64)
  | "cmp" => some (.utility cmp)
  | "diff" => some (.utility diff)
  | "whoami" => some (.utility whoami)
  | "id" => some (.utility idUtility)
  | "uname" => some (.utility uname)
  | "realpath" => some (.utility realpath)
  | "readlink" => some (.utility readlink)
  | "cat" => some (.utility cat)
  | "head" => some (.utility head)
  | "tail" => some (.utility tail)
  | "wc" => some (.utility wc)
  | "tee" => some (.utility tee)
  | "basename" => some (.utility basename)
  | "dirname" => some (.utility dirname)
  | "cp" => some (.utility cp)
  | "mv" => some (.utility mv)
  | "rm" => some (.utility rm)
  | "mkdir" => some (.utility mkdir)
  | "rmdir" => some (.utility rmdir)
  | "touch" => some (.utility touch)
  | "chmod" => some (.utility chmod)
  | "ls" => some (.utility ls)
  | "grep" => some (.utility grep)
  | "sed" => some (.utility sed)
  | "tr" => some (.utility tr)
  | "sort" => some (.utility sort)
  | "uniq" => some (.utility uniq)
  | "tac" => some (.utility tac)
  | "rev" => some (.utility rev)
  | "od" => some (.utility od)
  | "cut" => some (.utility cut)
  | "seq" => some (.utility seq)
  | "expr" => some (.utility expr)
  | "echo" => some (.utility echoUtility)
  | "printf" => some (.utility printfUtility)
  | "test" | "[" => some (.utility testUtility)
  | "pwd" => some (.utility pwdUtility)
  | "printenv" => some (.utility printenv)
  | "sleep" => some (.utility sleepUtility)
  | "true" => some (.utility fun inv => inv.finish 0 "" "")
  | "false" => some (.utility fun inv => inv.finish 1 "" "")
  | _ => none

/-- The program of the system at an absolute path, if there is one: a program of one of the
system's directories, named by its path. -/
def systemProgramAt (path : List String) : Option SystemProgram :=
  match path.reverse with
  | name :: dir =>
    if systemDirs.contains ("/" ++ "/".intercalate dir.reverse) then systemProgram? name else none
  | [] => none

end Regress.Shell
