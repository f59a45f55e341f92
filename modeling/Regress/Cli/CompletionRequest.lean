import Regress.Cli.Command

/-!
# Completion requests

The completion scripts ask the program itself what may come next on a command line: they call
the hidden command `__complete` (or `__completeNoDesc`, which leaves out descriptions) with the
words typed so far, the last of them the one being completed. The answer is one candidate a
line, then a line `:N` with a number that tells the shell how to go on, and on standard error
a sentence that names it.

* The words before the last one are matched against the tree of commands as a command line
  is; words that name no command give no candidates.
* A last word that starts with `-` is completed as a flag name: every flag of the command not
  set yet, by its long name and its shorthand, with its usage as description. The shell is then
  told not to complete file names.
* When the word before the last one is a flag that takes a value, the last word is that value,
  for which there are no candidates; the shell may complete file names.
* Otherwise, with no arguments and no flags given, the subcommands whose names start with the
  last word are the candidates. The completion commands and `help` never want file names; `help`
  offers the subcommands of the command its words name.
* A command line with a bad flag, or with `--help` or `--version` set, gives no candidates.
* Words that name the request command itself reach a command that reads no flags and has only
  its help flag to offer.
-/

namespace Regress.Cli

/-- How the shell is to go on after the candidates: as it would by default (file names
included), without a blank after a single candidate, or without completing file names. -/
inductive Directive where
  | default
  | noSpace
  | noFileNames
  deriving Repr, DecidableEq, Inhabited

/-- The number that stands for a directive in the answer. -/
def Directive.code : Directive → Nat
  | .default => 0
  | .noSpace => 2
  | .noFileNames => 4

/-- The name of a directive in the sentence on standard error. -/
def Directive.title : Directive → String
  | .default => "ShellCompDirectiveDefault"
  | .noSpace => "ShellCompDirectiveNoSpace"
  | .noFileNames => "ShellCompDirectiveNoFileComp"

/-- The candidates and the directive of an answer. -/
structure Completions where
  candidates : List String := []
  directive : Directive := .default
  deriving Repr, Inhabited

/-- Whether a word is a flag with its name: `--` and at least one character, or `-` and a
character other than `-`. -/
def isFlagWord (s : String) : Bool :=
  match s.toList with
  | '-' :: '-' :: _ :: _ => true
  | '-' :: c :: _ => c != '-'
  | _ => false

/-- The flag of a command named by a long name, or by a shorthand when the name is one
character. -/
def findFlag (flags : List Flag) (name : String) : Option Flag :=
  match name.toList with
  | [c] => flags.find? (·.shorthand == some c)
  | _ => flags.find? (·.name == name)

/-- The name a flag word gives: what follows `--`, or the last character after a single `-`. -/
def flagWordName (word : String) : String :=
  if word.startsWith "--" then (word.drop 2).toString
  else String.ofList (word.toList.getLast?.toList)

/-- What the last word completes: a flag's value, with the words before it and the text to
complete, or no flag. A last word that starts with `-` completes a flag name unless it has an
`=`; then the text after the first `=` is completed, as the value of the flag named before it.
When no name stands there (`--=...`), or the last word is no flag, a word before it that is a
flag without `=` names the flag and leaves the words; a switch named that way takes no value,
so the last word is then completed as a word of its own. A flag named that the command does not
have is reported by its name. -/
def valueTarget (flags : List Flag) (args : List String) (last : String) :
    Option Flag × List String × String × Option String :=
  if last.startsWith "-" && !last.contains '=' then (none, args, last, none)
  else
    let (fromLast, text, withEqual) : String × String × Bool :=
      match last.splitOn "=" with
      | head :: value :: more =>
        if last.startsWith "-" then (flagWordName head, "=".intercalate (value :: more), true)
        else ("", last, false)
      | _ => ("", last, false)
    let (name, rest) : String × List String :=
      if !fromLast.isEmpty then (fromLast, args)
      else
        match args.getLast? with
        | some prev =>
          if isFlagWord prev && !prev.contains '=' then (flagWordName prev, args.dropLast)
          else ("", args)
        | none => ("", args)
    if name.isEmpty then (none, rest, text, none)
    else
      match findFlag flags name with
      | none => (none, args, last, some name)
      | some f =>
        if !withEqual && f.kind == .switch then (none, args, text, none)
        else (some f, rest, text, none)

/-- The candidates for a flag name: the long name and the shorthand that start with the text,
each with the flag's usage. -/
def flagNameCandidates (f : Flag) (text : String) : List String :=
  let long := "--" ++ f.name
  (if long.startsWith text then [long ++ "\t" ++ f.usage] else []) ++
    match f.shorthand with
    | some c =>
      let short := "-" ++ String.singleton c
      if short.startsWith text then [short ++ "\t" ++ f.usage] else []
    | none => []

/-- The subcommands of a command in the order of their names. -/
def CommandId.sortedSubcommands (c : CommandId) : List CommandId :=
  c.info.subcommands.mergeSort fun a b => decide (a.info.name ≤ b.info.name)

/-- The subcommands a completion may offer: those that show, and `help` under the top. -/
def CommandId.offered (c : CommandId) : List CommandId :=
  c.sortedSubcommands.filter fun d => d.isAvailable || d == .help

/-- The subcommands of a command whose names start with a text, with their descriptions. -/
def CommandId.subcommandCandidates (c : CommandId) (text : String) : List String :=
  (c.offered.filter (·.info.name.startsWith text)).map fun d => d.info.name ++ "\t" ++ d.info.short

/-- What the command itself offers for its arguments: the completion commands want no file
names, and `help` offers the subcommands of the command its words name. -/
def CommandId.argumentCompletions (c : CommandId) (args : List String) (text : String) :
    Option Completions :=
  match c with
  | .completion | .bash | .zsh | .fish | .powershell => some { directive := .noFileNames }
  | .help =>
    match locate args with
    | .ok (named, _) => some { candidates := named.subcommandCandidates text, directive := .noFileNames }
    | .error _ => some { directive := .noFileNames }
  | _ => none

/-- The word that names the request command at the head of some words, if it does. -/
def requestWord (words : List String) : Option String :=
  match commandWords [] words with
  | word :: _ =>
    if word == "__complete" || word == "__completeNoDesc" then some word else none
  | [] => none

/-- The help flag of the request command, the only flag it has while it answers. -/
def requestHelpFlag : Flag :=
  { name := "help", shorthand := some 'h', kind := .switch, usage := "help for __complete" }

/-- What a request offers when the words name the request command itself. It reads no flags,
so its help flag is never set: a last word that starts with `-` and has no `=` is completed as
a flag name, and anything else has no candidates. -/
def requestCompletions (last : String) : Completions :=
  if last.startsWith "-" && !last.contains '=' then
    { candidates := flagNameCandidates requestHelpFlag last, directive := .noFileNames }
  else {}

/-- The answer to a completion request for the words typed: all but the last name the command
and its flags and arguments so far, and the last is being completed. -/
def completionsFor (words : List String) : Completions :=
  let last := words.getLast?.getD ""
  if (requestWord words.dropLast).isSome then requestCompletions last else
  match locate words.dropLast with
  | .error _ => {}
  | .ok (c, args) =>
    let flags := c.flags
    let (flag, args, text, unknown) := valueTarget flags args last
    let closed := parse flags (args ++ ["--"])
    match parse flags args with
    | .error _ => {}
    | .ok given =>
      let afterDashes := match closed with
        | .ok p => p.args.length > given.args.length
        | .error _ => false
      let flagCompletion := !afterDashes
      if unknown.isSome && flagCompletion then {}
      else if given.values.any (fun (n, _) => n == "help" || n == "version") then
        { directive := .noFileNames }
      else if flag.isNone && text.startsWith "-" && !text.contains '=' && flagCompletion then
        let sorted := flags.mergeSort fun a b => decide (a.name ≤ b.name)
        let unset := sorted.filter fun f => !given.values.any (·.1 == f.name) || f.kind == .texts
        let candidates := unset.flatMap fun f => flagNameCandidates f text
        let directive := match candidates with
          | [one] => if one.endsWith "=" then .noSpace else .noFileNames
          | _ => .noFileNames
        { candidates, directive }
      else
        let own : Completions :=
          if flag.isNone && given.args.isEmpty && given.values.isEmpty then
            { candidates := c.subcommandCandidates text
              directive := if c.offered.isEmpty then .default else .noFileNames }
          else {}
        if flag.isSome && flagCompletion then own
        else
          match c.argumentCompletions given.args text with
          | some more => { candidates := own.candidates ++ more.candidates, directive := more.directive }
          | none => own

/-- The text of an answer: one candidate a line, without its description when `brief`, cut at
its first line break and trimmed, then the directive's number. -/
def Completions.render (r : Completions) (brief : Bool) : String :=
  let trim (s : String) : String :=
    String.ofList ((s.toList.dropWhile Char.isWhitespace).reverse.dropWhile Char.isWhitespace).reverse
  String.join (r.candidates.map fun s =>
    let s := if brief then (s.splitOn "\t").headD "" else s
    trim ((s.splitOn "\n").headD "") ++ "\n") ++
    ":" ++ toString r.directive.code ++ "\n"

/-- The sentence on standard error that names the directive of an answer. -/
def Completions.note (r : Completions) : String :=
  "Completion ended with directive: " ++ r.directive.title ++ "\n"

/-- The command word of a completion request at the head of a command line, if it is one:
whether it asks for no descriptions, and the words it is given. -/
def completionRequest (args : List String) : Option (Bool × List String) :=
  (requestWord args).map fun word => (word == "__completeNoDesc", withoutWord [] word args)

/-- Whether the answer to a request leaves out descriptions: the request command is one
command under two names, and the name it was last found by decides, so words that name it
again override the name the request came by. -/
def answerIsBrief (brief : Bool) (words : List String) : Bool :=
  match requestWord words.dropLast with
  | some word => word == "__completeNoDesc"
  | none => brief

end Regress.Cli
