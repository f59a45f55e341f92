/-!
# The syntax of shell scripts

The commands of the POSIX shell language: simple commands with assignments and redirections,
pipelines, `&&` and `||` lists, sequences, commands run in the background, brace groups,
subshells, `if`, `while`, `until`, `for`, `case` and function definitions.

A word is a list of parts: text, quoted or not, parameter expansions, command substitutions and
arithmetic expansions. Quoting is kept on every part, because it decides whether the expanded
text is split into fields and whether it can match file names. The word inside a `${...}`
operator, the body of a command substitution and the expression of an arithmetic expansion are
kept as source text and read when they are expanded; a substitution keeps the line it starts
on, so that what its commands report names the line of the script.

Bash adds `[[ ... ]]` conditions, arithmetic commands and loops, array assignments and
`case` arms that fall through or test on.

A here-document is a redirection whose target is its body, read as a word: quoted text when its
delimiter was quoted, else text with expansions in it.
-/

namespace Regress.Shell

/-- Which shell reads a script: the POSIX shell, or bash, which reads more syntax and words its
messages differently. -/
inductive Dialect where
  | posix
  | bash
  deriving Repr, DecidableEq, Inhabited

/-- Where a `${name/pattern/text}` replacement may match: the first match, every match, only
at the start, or only at the end. -/
inductive ReplaceMode where
  | first
  | every
  | atStart
  | atEnd
  deriving Repr, DecidableEq, Inhabited

/-- What a `${...}` expansion does with the parameter's value. `colon` tells whether an empty
value counts as unset; `longest` whether a pattern removes as much as it can. -/
inductive ParamOp where
  | value
  | length
  | useDefault (colon : Bool) (word : String)
  | assignDefault (colon : Bool) (word : String)
  | useAlternative (colon : Bool) (word : String)
  | failIfUnset (colon : Bool) (word : String)
  | removeSuffix (longest : Bool) (pattern : String)
  | removePrefix (longest : Bool) (pattern : String)
  | substring (offset : String) (length : Option String)
  | replace (mode : ReplaceMode) (pattern : String) (replacement : String)
  | changeCase (upper : Bool) (all : Bool) (pattern : String)
  | transform (op : Char)
  /-- A `${...}` whose body is no expansion: an error when the word is expanded, not when the
  script is read. -/
  | malformed (text : String)
  deriving Repr, DecidableEq, Inhabited

/-- A part of a word. `quoted` parts are neither split into fields nor matched against file
names. -/
inductive WordPart where
  | text (s : String) (quoted : Bool)
  | param (name : String) (op : ParamOp) (quoted : Bool)
  | substitution (source : String) (line : Nat) (quoted : Bool)
  | arithmetic (source : String) (quoted : Bool)
  deriving Repr, DecidableEq, Inhabited

/-- A word: its parts in order. -/
abbrev Word := List WordPart

/-- What a redirection does with its file descriptor. -/
inductive RedirectOp where
  | input
  | output
  | clobber
  | append
  | duplicateOutput
  | duplicateInput
  | readWrite
  | hereDoc
  | hereString
  deriving Repr, DecidableEq, Inhabited

/-- A redirection of the file descriptor `fd` to or from `target`; for a here-document the
target is the body. -/
structure Redirect where
  fd : Nat
  op : RedirectOp
  target : Word
  deriving Repr, DecidableEq, Inhabited

/-- An expression of bash's `[[ ... ]]`: tests on words joined by `!`, `&&` and `||`. The right
side of `==` and `!=` is a pattern and of `=~` a regular expression, in which quoted parts stand
for themselves. -/
inductive CondExpr where
  | word (w : Word)
  | unary (op : String) (operand : Word)
  | binary (op : String) (left right : Word)
  | negate (e : CondExpr)
  | both (a b : CondExpr)
  | either (a b : CondExpr)
  deriving Repr, DecidableEq, Inhabited

/-- The value of an assignment: a word, or the items of an array between parentheses, each
with the subscript written before it, if any. -/
inductive AssignValue where
  | scalar (w : Word)
  | array (items : List (Option String × Word))
  deriving Repr, DecidableEq, Inhabited

/-- An assignment: the name, the subscript of the array element assigned, if any, whether `+=`
adds to the old value, and the value. -/
structure Assignment where
  name : String
  index : Option String := none
  append : Bool := false
  value : AssignValue
  deriving Repr, DecidableEq, Inhabited

/-- How an arm of `case` ends: `;;` stops; in bash `;&` runs the next arm's body as well, and
`;;&` goes on testing the arms after it. -/
inductive ArmEnd where
  | stop
  | fallThrough
  | testNext
  deriving Repr, DecidableEq, Inhabited

/-- A command. Simple commands keep the line they start on, and function definitions the line
of their name, for messages. -/
inductive Command where
  | simple (line : Nat) (assignments : List Assignment) (words : List Word)
      (redirects : List Redirect)
  | pipeline (negated : Bool) (stages : List Command)
  | andThen (first second : Command)
  | orElse (first second : Command)
  | sequence (items : List Command)
  | background (body : Command)
  | group (body : Command)
  | subshell (body : Command)
  | ifThen (condition body : Command) (otherwise : Option Command)
  | loop (untilDone : Bool) (condition body : Command)
  | forEach (name : String) (words : Option (List Word)) (body : Command)
  | caseOf (subject : Word) (arms : List (List Word × Command × ArmEnd))
  | function (name : String) (line : Nat) (body : Command)
  | redirected (body : Command) (redirects : List Redirect)
  | arith (line : Nat) (expr : String)
  | cond (line : Nat) (expr : CondExpr)
  | forArith (line : Nat) (init test step : String) (body : Command)
  deriving Repr, Inhabited

/-- The command that does nothing. -/
def Command.empty : Command :=
  .sequence []

/-- The aliases of a shell, in the order they were first defined: a name and the text that
replaces it where it stands as a command word. -/
abbrev AliasTable := List (String × String)

end Regress.Shell
