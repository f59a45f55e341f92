import Regress.Cli.Command
import Regress.Cli.Completion
import Regress.Cli.CompletionRequest
import Regress.Config.Load
import Regress.Suite
import Regress.Listing
import Regress.Toolchain.External

/-!
# Running a command line

A command line is matched against the tree of commands, its flags are read, and the command
runs.

* A request for help, for the version, or a command that only groups subcommands prints text
  and succeeds.
* `run` and `list` first load the configuration from the flags, the configuration file and the
  environment. `run` then prepares the workspace, runs every case with the compiler and the
  interpreter as programs, and fails with the outcome's exit status when that is not 0.
  `list` prints the cases it finds and changes nothing.
* `help` shows the help of the command its words name, or says that they name none.
* `completion bash`, `zsh`, `fish` and `powershell` print the shell's completion script.

Errors are not printed: the command line ends with the failure, and its kind decides the exit
status.
-/

namespace Regress.Cli

/-- The options the flags give. -/
def Parsed.options (p : Parsed) : Flags :=
  { configFile := p.text "config", envFile := p.text "env-file"
    corpusRoot := p.text "corpus-root", groups := p.texts "group"
    compiler := p.text "compiler", interpreter := p.text "interpreter"
    outputDir := p.text "output-dir", nameFilter := p.text "filter"
    keepGoing := p.switch "keep-going", scopeArtifacts := p.switch "scope-artifacts"
    timeout := p.duration "timeout", progress := p.switch "progress"
    noColor := p.switch "no-color" }

/-- A step of a command line. -/
abbrev CliM := SessionM Launcher

/-- The working directory as a path. -/
def workingDir : CliM String := do
  pure ("/" ++ "/".intercalate (← get).cwd)

/-- The suite of a configuration, seen from the working directory `cwd`: the compiler and the
interpreter run as programs, and the console reports. No progress display is set. -/
def newSuite (c : Config) (cwd : String) : Suite CliM where
  config := c
  runner := Runner.run (Launcher.toolchain (c.compilerPath cwd) (c.interpreterPath cwd)) c.timeout
  reporter := Console.reporter

/-- Runs every case of the corpus, with a progress display when one is asked for and there are
cases; fails with the outcome's exit status when it is not 0. -/
def runCorpus (c : Config) : CliM (Except Failure Unit) := do
  let suite := newSuite c (← workingDir)
  match ← suite.prepare c.groupList with
  | .error f => pure (.error f)
  | .ok cases =>
    let suite := if c.flags.progress && !cases.isEmpty then
      { suite with progress := some Session.progressDisplay } else suite
    match ← suite.execute .background cases with
    | (_, some f) => pure (.error f)
    | (o, none) =>
      if o.exitCode != 0 then pure (.error (Failure.sentinel (.exit o.exitCode)))
      else pure (.ok ())

/-- Lists the cases of the corpus. -/
def listCorpus (c : Config) : CliM (Except Failure Unit) := do
  let s ← get
  match (newSuite c (← workingDir)).plan s.tree s.cwd c.groupList with
  | .error f => pure (.error f)
  | .ok cases =>
    Session.print (Listing.render c.groupList cases)
    pure (.ok ())

/-- Loads the configuration the flags ask for, then acts on it. Loading the environment file
sets its variables for the programs started later. -/
def withConfig (p : Parsed) (action : Config → CliM (Except Failure Unit)) :
    CliM (Except Failure Unit) := do
  let s ← get
  match Config.load p.options s.tree s.cwd s.tools.env with
  | .error f => pure (.error f)
  | .ok (c, env) =>
    Session.updateTools fun l => { l with env }
    action c

/-- Whether a word can be shown between backquotes. -/
def backquotable (s : String) : Bool :=
  s.all fun c => (c.toNat ≥ 0x20 || c == '\t') && c != '\x60' && c != '\x7f' && c != '\uFEFF'

/-- A list of words as the help command shows an unknown topic. -/
def topicText (words : List String) : String :=
  "[" ++ " ".intercalate (words.map fun w =>
    if backquotable w then "\x60" ++ w ++ "\x60" else Escape.quoted w) ++ "]"

/-- The `help` command: the help of the command its words name. For words that name none it
shows the usage of the top command, which has not run and so has only the flags it declares. -/
def helpTopic (words : List String) : CliM Unit :=
  match locate words with
  | .ok (c, _) => Session.print c.helpText
  | .error _ =>
    Session.print ("Unknown help topic " ++ topicText words ++ "\n" ++
      CommandId.root.usage CommandId.root.info.flags)

/-- Answers a completion request: the candidates on standard output and the sentence about
the directive on standard error. A request needs at least one word. -/
def answerCompletion (brief : Bool) (words : List String) : CliM (Except Failure Unit) := do
  if words.isEmpty then
    pure (.error (Failure.other "requires at least 1 arg(s), only received 0"))
  else
    let r := completionsFor words
    Session.print (r.render (answerIsBrief brief words))
    Session.printErr r.note
    pure (.ok ())

/-- Runs a command line. -/
def execute (args : List String) : CliM (Except Failure Unit) := do
  match completionRequest args with
  | some (brief, words) => answerCompletion brief words
  | none =>
  match locate args with
  | .error m => pure (.error (Failure.other m))
  | .ok (c, words) =>
    match parse c.flags words with
    | .error m => pure (.error (Failure.other m))
    | .ok p =>
      if p.switch "help" then
        Session.print c.helpText
        pure (.ok ())
      else if c == .root && p.switch "version" then
        Session.print (programName ++ " version " ++ programVersion ++ "\n")
        pure (.ok ())
      else if !c.info.runnable then
        Session.print c.helpText
        pure (.ok ())
      else
        match p.args with
        | word :: _ =>
          if c.info.noArgs then pure (.error (Failure.other (unknownCommand word c)))
          else dispatch c p
        | [] => dispatch c p
where
  /-- Runs a command whose flags and arguments were accepted. -/
  dispatch (c : CommandId) (p : Parsed) : CliM (Except Failure Unit) :=
    match c with
    | .run => withConfig p runCorpus
    | .list => withConfig p listCorpus
    | .help => do
      helpTopic p.args
      pure (.ok ())
    | .bash => script p Completion.bashScript
    | .zsh => script p Completion.zshScript
    | .fish => script p Completion.fishScript
    | .powershell => script p Completion.powershellScript
    | _ => pure (.ok ())
  /-- Prints a completion script, with descriptions unless the flags turn them off. -/
  script (p : Parsed) (text : String → Bool → String) : CliM (Except Failure Unit) := do
    Session.print (text programName (!p.switch "no-descriptions"))
    pure (.ok ())

/-- What a command line did: the failure it ended with, if any, and the session after it. The
programs it starts see `env`. -/
def runCommandLine (args : List String) (tree : FileTree) (cwd : List String) (env : Environment) :
    Option Failure × Session Launcher :=
  let (r, s) := (execute args).run { tree, cwd, tools := { env } }
  match r with
  | .ok () => (none, s)
  | .error f => (some f, s)

end Regress.Cli
