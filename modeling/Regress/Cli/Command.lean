import Regress.Cli.Flag
import Regress.Config.Basic
import Regress.Text.Case

/-!
# The commands

The program has a fixed tree of commands: `run` and `list` do the work, `help` shows the help of
another command, and `completion` groups the commands that print completion scripts for shells.

A command line is matched against the tree before any flag is read. Words that are not flags
(nor values of the flags the command declares) name subcommands, one level at a time. At the
top, a first word that names no command is refused, with the commands whose names are close to
it as suggestions; a command that takes no arguments refuses any word left over when it runs.

Every command accepts `-h` and `--help`, and the top command also `-v` and `--version`. These
are added when a command runs, so while the tree is being matched they are unknown words like
any other flag: `--help run` asks for the help of the top command, with `run` as its value.

The help of a command shows its description, how to call it, its subcommands and its flags.
-/

namespace Regress.Cli

/-- The name the program is called by. -/
def programName : String := "ltr"

/-- The version the program reports. -/
def programVersion : String := "dev"

/-- The commands of the program. -/
inductive CommandId where
  | root
  | run
  | list
  | help
  | completion
  | bash
  | zsh
  | fish
  | powershell
  deriving Repr, DecidableEq, Inhabited

/-- What a command is: its name, how it is called, its descriptions, the flags it declares,
whether it refuses arguments, whether it does something itself (rather than only group
subcommands), whether its call line mentions flags, and its subcommands in the order they
were added. -/
structure CommandInfo where
  name : String
  use : String
  short : String
  long : String := ""
  flags : List Flag := []
  noArgs : Bool := true
  runnable : Bool := true
  flagsInUseLine : Bool := true
  subcommands : List CommandId := []
  deriving Repr, Inhabited

/-- The flags of the commands that read a corpus. -/
def corpusFlags : List Flag := [
  { name := "config", shorthand := some 'c', kind := .text
    usage := "Config file (default \"" ++ Config.defaultFile ++ "\" if present)" },
  { name := "env-file", kind := .text
    usage := "Environment file (default \"" ++ Config.defaultEnvFile ++ "\" if present)" },
  { name := "corpus-root", shorthand := some 'r', kind := .text
    usage := "Root directory of the test corpus (default \"" ++ Config.defaults.corpusRoot ++ "\")" },
  { name := "group", shorthand := some 'g', kind := .texts
    usage := "Group directory relative to the corpus root; repeat to run several, in order" },
  { name := "filter", shorthand := some 'f', kind := .text
    usage := "Filter cases by name pattern (supports wildcards, e.g. \x27test0*\x27 or \x27*array*\x27)" },
  { name := "no-color", kind := .switch, usage := "Disable colored output" }]

/-- The flags of `run` beyond those of a corpus. -/
def runFlags : List Flag := [
  { name := "compiler", kind := .text
    usage := "Compiler executable (default \"" ++ Config.defaults.compiler ++ "\")" },
  { name := "interpreter", kind := .text
    usage := "Interpreter executable (default \"" ++ Config.defaults.interpreter ++ "\")" },
  { name := "output-dir", shorthand := some 'o', kind := .text
    usage := "Directory for actual output logs (default \"" ++ Config.defaults.outputDir ++ "\")" },
  { name := "keep-going", kind := .switch
    usage := "Run every case instead of stopping at the first failure" },
  { name := "scope-artifacts", kind := .switch
    usage := "Compile each group into its own artifact directory under the output dir" },
  { name := "timeout", kind := .duration, usage := "Per-case time limit, e.g. 30s (0 means none)" },
  { name := "progress", kind := .switch, usage := "Show a progress bar on stderr" }]

/-- The flag of the completion commands that leaves out descriptions. -/
def noDescriptionsFlag : Flag :=
  { name := "no-descriptions", kind := .switch, usage := "disable completion descriptions" }

/-- The description of the completion command of a shell. -/
def shellShort (shell : String) : String :=
  "Generate the autocompletion script for " ++ shell

/-- What each command is. -/
def CommandId.info : CommandId → CommandInfo
  | .root =>
    { name := programName, use := programName
      short := "Regression test runner for a bytecode compiler and interpreter"
      long := "Discover regression cases, compile each one to bytecode, run the interpreter\n" ++
        "on it with the case\x27s input and compare the output with the recorded transcript.\n" ++
        "The run stops at the first failing case unless --keep-going is given."
      noArgs := false, runnable := false, subcommands := [.run, .list, .help, .completion] }
  | .run =>
    { name := "run", use := "run", short := "Run the regression corpus"
      long := "Compile every case, run the interpreter on it and compare its output with the " ++
        "recorded transcript"
      flags := corpusFlags ++ runFlags }
  | .list =>
    { name := "list", use := "list", short := "List discovered cases"
      long := "Scan the configured groups and list their cases without running them"
      flags := corpusFlags }
  | .help =>
    { name := "help", use := "help [command]", short := "Help about any command"
      long := "Help provides help for any command in the application.\n" ++
        "Simply type " ++ programName ++ " help [path to command] for full details."
      noArgs := false }
  | .completion =>
    { name := "completion", use := "completion"
      short := "Generate the autocompletion script for the specified shell"
      long := "Generate the autocompletion script for " ++ programName ++
        " for the specified shell.\n" ++
        "See each sub-command\x27s help for details on how to use the generated script.\n"
      runnable := false, subcommands := [.bash, .zsh, .fish, .powershell] }
  | .bash =>
    { name := "bash", use := "bash", short := shellShort "bash"
      long := "Generate the autocompletion script for the bash shell.\n\n" ++
        "This script depends on the \x27bash-completion\x27 package.\n" ++
        "If it is not installed already, you can install it via your OS\x27s package manager.\n\n" ++
        "To load completions in your current shell session:\n\n" ++
        "\tsource <(" ++ programName ++ " completion bash)\n\n" ++
        "To load completions for every new session, execute once:\n\n" ++
        "#### Linux:\n\n" ++
        "\t" ++ programName ++ " completion bash > /etc/bash_completion.d/" ++ programName ++ "\n\n" ++
        "#### macOS:\n\n" ++
        "\t" ++ programName ++ " completion bash > $(brew --prefix)/etc/bash_completion.d/" ++
        programName ++ "\n\n" ++
        "You will need to start a new shell for this setup to take effect.\n"
      flags := [noDescriptionsFlag], flagsInUseLine := false }
  | .zsh =>
    { name := "zsh", use := "zsh", short := shellShort "zsh"
      long := "Generate the autocompletion script for the zsh shell.\n\n" ++
        "If shell completion is not already enabled in your environment you will need\n" ++
        "to enable it.  You can execute the following once:\n\n" ++
        "\techo \"autoload -U compinit; compinit\" >> ~/.zshrc\n\n" ++
        "To load completions in your current shell session:\n\n" ++
        "\tsource <(" ++ programName ++ " completion zsh)\n\n" ++
        "To load completions for every new session, execute once:\n\n" ++
        "#### Linux:\n\n" ++
        "\t" ++ programName ++ " completion zsh > \"$\x7bfpath[1]\x7d/_" ++ programName ++ "\"\n\n" ++
        "#### macOS:\n\n" ++
        "\t" ++ programName ++ " completion zsh > $(brew --prefix)/share/zsh/site-functions/_" ++
        programName ++ "\n\n" ++
        "You will need to start a new shell for this setup to take effect.\n"
      flags := [noDescriptionsFlag] }
  | .fish =>
    { name := "fish", use := "fish", short := shellShort "fish"
      long := "Generate the autocompletion script for the fish shell.\n\n" ++
        "To load completions in your current shell session:\n\n" ++
        "\t" ++ programName ++ " completion fish | source\n\n" ++
        "To load completions for every new session, execute once:\n\n" ++
        "\t" ++ programName ++ " completion fish > ~/.config/fish/completions/" ++ programName ++
        ".fish\n\n" ++
        "You will need to start a new shell for this setup to take effect.\n"
      flags := [noDescriptionsFlag] }
  | .powershell =>
    { name := "powershell", use := "powershell", short := shellShort "powershell"
      long := "Generate the autocompletion script for powershell.\n\n" ++
        "To load completions in your current shell session:\n\n" ++
        "\t" ++ programName ++ " completion powershell | Out-String | Invoke-Expression\n\n" ++
        "To load completions for every new session, add the output of the above command\n" ++
        "to your powershell profile.\n"
      flags := [noDescriptionsFlag] }

/-- The commands from the top down to a command. -/
def CommandId.lineage : CommandId → List CommandId
  | .root => [.root]
  | .run => [.root, .run]
  | .list => [.root, .list]
  | .help => [.root, .help]
  | .completion => [.root, .completion]
  | .bash => [.root, .completion, .bash]
  | .zsh => [.root, .completion, .zsh]
  | .fish => [.root, .completion, .fish]
  | .powershell => [.root, .completion, .powershell]

/-- The names of the commands down to a command, as it is called. -/
def CommandId.path (c : CommandId) : String :=
  " ".intercalate (c.lineage.map (·.info.name))

/-- The flag that asks for help. -/
def helpFlag (c : CommandId) : Flag :=
  { name := "help", shorthand := some 'h', kind := .switch, usage := "help for " ++ c.info.name }

/-- The flag that asks for the version. -/
def versionFlag : Flag :=
  { name := "version", shorthand := some 'v', kind := .switch
    usage := "version for " ++ programName }

/-- The flags a command accepts when it runs: its own, help, and for the top command the
version. -/
def CommandId.flags (c : CommandId) : List Flag :=
  c.info.flags ++ [helpFlag c] ++ (if c == .root then [versionFlag] else [])

/-- Whether a command shows in lists of commands: `help` never does, and another one does when
it does something or has a subcommand that shows. -/
def CommandId.isAvailable (c : CommandId) : Bool :=
  c != .help && (c.info.runnable || c.info.subcommands.any fun d => d.info.runnable)

/-- Whether a command has subcommands that show. -/
def CommandId.hasAvailableSubcommands (c : CommandId) : Bool :=
  c.info.subcommands.any (·.isAvailable)

/-- Whether a flag of this long name takes no value. -/
def isSwitchNamed (flags : List Flag) (name : String) : Bool :=
  flags.any fun f => f.name == name && f.kind == .switch

/-- Whether a flag with the shorthand that starts `name` takes no value. -/
def isSwitchShorthand (flags : List Flag) (name : String) : Bool :=
  match name.toList with
  | c :: _ => flags.any fun f => f.shorthand == some c && f.kind == .switch
  | [] => false

/-- Whether a word is a flag that takes the next word as its value. -/
def takesNextWord (flags : List Flag) (s : String) : Bool :=
  (s.startsWith "--" && !s.contains '=' && !isSwitchNamed flags (s.drop 2).toString) ||
    (s.startsWith "-" && !s.contains '=' && Utf8.byteSize s == 2 &&
      !isSwitchShorthand flags (s.drop 1).toString)

/-- The words of a command line that may name subcommands: those that are neither flags nor
values of flags, up to `--`. A flag that takes a value with at most its value after it ends the
search. -/
def commandWords (flags : List Flag) : List String → List String
  | [] => []
  | s :: rest =>
    if s == "--" then []
    else if takesNextWord flags s then
      match rest with
      | [] => []
      | _ :: tail => if tail.isEmpty then [] else commandWords flags tail
    else if !s.isEmpty && !s.startsWith "-" then s :: commandWords flags rest
    else commandWords flags rest

/-- The command line without the first word equal to `x` that is neither a flag nor the value
of one. -/
def withoutWord (flags : List Flag) (x : String) : List String → List String
  | [] => []
  | s :: rest =>
    if s == "--" then s :: rest
    else if takesNextWord flags s then
      match rest with
      | v :: r => s :: v :: withoutWord flags x r
      | [] => [s]
    else if !s.startsWith "-" && s == x then rest
    else s :: withoutWord flags x rest

/-- The subcommand of a command with the given name. -/
def CommandId.child? (c : CommandId) (name : String) : Option CommandId :=
  c.info.subcommands.find? (·.info.name == name)

/-- Follows the words of a command line down the tree: the command they name and the words
left for it. -/
def descend : Nat → CommandId → List String → CommandId × List String
  | 0, c, args => (c, args)
  | fuel + 1, c, args =>
    match commandWords c.info.flags args with
    | [] => (c, args)
    | next :: _ =>
      match c.child? next with
      | some d => descend fuel d (withoutWord c.info.flags next args)
      | none => (c, args)

/-- The edit distance between two byte strings. -/
def editDistance (s t : List UInt8) : Nat :=
  let first := List.range (t.length + 1)
  let last := s.zipIdx.foldl (fun prev (a, i) =>
    let (row, _) := t.zipIdx.foldl (fun (acc : List Nat × Nat) (b, j) =>
      let (row, left) := acc
      let d := if a == b then prev.getD j 0
        else min (min (prev.getD (j + 1) 0) left) (prev.getD j 0) + 1
      (row ++ [d], d)) ([i + 1], i + 1)
    row) first
  last.getD t.length 0

/-- A text in lower case, as suggestions compare names. -/
def lowered (s : String) : String :=
  Text.lower s

/-- The commands whose names are close to a word that names none: within two edits, or
starting with the word, whatever the case. -/
def suggestionsFor (typed : String) : List String :=
  (CommandId.root.info.subcommands.filter (·.isAvailable)).filterMap fun c =>
    let name := c.info.name
    let near := editDistance (lowered typed).toUTF8.toList (lowered name).toUTF8.toList ≤ 2
    if near || (lowered name).startsWith (lowered typed) then some name else none

/-- The suggestions for a word that names no command, as the message lists them. -/
def suggestionText (typed : String) : String :=
  match suggestionsFor typed with
  | [] => ""
  | names => "\n\nDid you mean this?\n" ++ String.join (names.map fun n => "\t" ++ n ++ "\n")

/-- The message for a word that names no command of `c`. -/
def unknownCommand (word : String) (c : CommandId) : String :=
  "unknown command " ++ Escape.quoted word ++ " for " ++ Escape.quoted c.path

/-- The command a command line names and the words left for it, or why it names none: a first
word at the top that names no command. -/
def locate (args : List String) : Except String (CommandId × List String) :=
  let (c, rest) := descend 3 .root args
  if c == .root then
    match commandWords c.info.flags rest with
    | word :: _ => .error (unknownCommand word c ++ suggestionText word)
    | [] => .ok (c, rest)
  else .ok (c, rest)

/-- A name padded with blanks to a width. -/
def padRight (s : String) (width : Nat) : String :=
  s ++ String.ofList (List.replicate (width - s.length) ' ')

/-- How a command is called. -/
def CommandId.useLine (c : CommandId) : String :=
  let line := match c.lineage.dropLast.getLast? with
    | some p => p.path ++ " " ++ c.info.use
    | none => c.info.use
  if c.info.flagsInUseLine && !(line.splitOn "[flags]").length > 1 then line ++ " [flags]" else line

/-- The usage of a command with the flags it has at the time: how to call it, its subcommands
and its flags. -/
def CommandId.usage (c : CommandId) (flags : List Flag) : String :=
  let subs := c.info.subcommands
  let width := max 11 ((subs.map (·.info.name.length)).foldl max 0)
  let sorted := subs.mergeSort fun a b => decide (a.info.name ≤ b.info.name)
  let listed := sorted.filter fun d => d.isAvailable || d.info.name == "help"
  "Usage:" ++
    (if c.info.runnable then "\n  " ++ c.useLine else "") ++
    (if c.hasAvailableSubcommands then "\n  " ++ c.path ++ " [command]" else "") ++
    (if c.hasAvailableSubcommands then
      "\n\nAvailable Commands:" ++
        String.join (listed.map fun d => "\n  " ++ padRight d.info.name width ++ " " ++ d.info.short)
    else "") ++
    (if flags.isEmpty then "" else "\n\nFlags:\n" ++ trimTrailing (usages flags)) ++
    (if c.hasAvailableSubcommands then
      "\n\nUse \"" ++ c.path ++ " [command] --help\" for more information about a command."
    else "") ++ "\n"

/-- The help of a command: its description, then its usage with all its flags. -/
def CommandId.helpText (c : CommandId) : String :=
  let description := trimTrailing (if c.info.long.isEmpty then c.info.short else c.info.long)
  (if description.isEmpty then "" else description ++ "\n\n") ++
    (if c.info.runnable || !c.info.subcommands.isEmpty then c.usage c.flags else "")

end Regress.Cli
