import Regress.Shell.Word

/-!
# Reading shell scripts

The tokens of a script are parsed into commands by the grammar of the shell language. Reserved
words are words in the place of a command whose whole text is the reserved word. A name
followed by `()` defines a function whose body is the command after it.

Like the shell, the reader takes the script one line of top-level commands at a time: the
lines before a syntax error are read, and the error is reported with the line it was found
on. A problem in the tokens themselves, such as a quote never closed, stops the reading at the
line it belongs to in the same way.

The bash grammar adds `[[ ... ]]` conditions, `(( ... ))` and `for (( ...; ...; ... ))`,
`function name`, array assignments `a=(...)`, the `case` endings `;&` and `;;&`, and brace
expansion of words; its syntax errors name the unexpected token and show the line.
-/

namespace Regress.Shell

/-! ## Commands -/

/-- The words that are reserved in the place of a command. -/
def reservedWords : List String :=
  ["if", "then", "else", "elif", "fi", "do", "done", "case", "esac", "while", "until", "for",
    "in", "\x7b", "\x7d", "!"]

/-- The words reserved in the place of a command in bash: those of the POSIX shell, the
brackets of a conditional, and `function`. -/
def bashReservedWords : List String :=
  reservedWords ++ ["[[", "]]", "function"]

/-- What the reader of a script needs besides its tokens: the dialect, the aliases in force, the
last line of the text (where an error at its end is reported), and the lines of the text from
`firstLine` on, which bash quotes in its syntax errors. -/
structure Grammar where
  dialect : Dialect := .posix
  aliases : AliasTable := []
  eofLine : Nat := 0
  firstLine : Nat := 1
  lines : Array String := #[]
  deriving Inhabited

/-- Whether the grammar is that of bash. -/
def Grammar.bash (g : Grammar) : Bool :=
  g.dialect == .bash

/-- The reserved words of the grammar. -/
def Grammar.reserved (g : Grammar) : List String :=
  if g.bash then bashReservedWords else reservedWords

/-- The text of a line of the script. -/
def Grammar.lineText (g : Grammar) (n : Nat) : String :=
  g.lines.getD (n - g.firstLine) ""

/-- A parse step: it fails with a line and a message. -/
abbrev ParseM := Except (Nat × String)

/-- The line of the first token, or of the end. -/
def lineOf (line : Nat) : List Token → Nat
  | t :: _ => t.line
  | [] => line

/-- What a syntax error of the POSIX shell calls a token: a reserved word, where it counts as
one (`keyword`), or an operator by its text in quotes; any other word `word`, a redirection
`redirection`, a line break `newline`. -/
def posixTokenName (keyword : Bool) : TokenKind → String
  | .word w => if keyword && reservedWords.contains w then "\"" ++ w ++ "\"" else "word"
  | .op o =>
    if o == "<" || o == ">" || o == ">>" || o == ">|" || o == "<&" || o == ">&" || o == "<>" then
      "redirection"
    else "\"" ++ o ++ "\""
  | .newline => "newline"
  | .ioNumber _ => "redirection"
  | .hereDoc _ _ => "redirection"
  | .arith _ => "\"(\""

/-- The error for an unexpected token, where `expecting` is what the grammar wanted there, if it
says. The POSIX shell names the token and what it expected; a line break is reported on the
line after it, which the shell has begun reading. Bash names the token and quotes the line it
is on. Reserved words count as such where `keyword` says. -/
def syntaxError {α : Type} (ts : List Token) (g : Grammar) (keyword : Bool)
    (expecting : Option String) : Except (Nat × String) α :=
  match g.dialect with
  | .posix =>
    let wanted := match expecting with
      | some w => " (expecting " ++ w ++ ")"
      | none => ""
    match ts with
    | ⟨.newline, l⟩ :: _ => .error (l + 1, "Syntax error: newline unexpected" ++ wanted)
    | ⟨k, l⟩ :: _ => .error (l, "Syntax error: " ++ posixTokenName keyword k ++ " unexpected" ++ wanted)
    | [] => .error (g.eofLine, "Syntax error: end of file unexpected" ++ wanted)
  | .bash =>
    let near (l : Nat) (t : String) : Except (Nat × String) α :=
      .error (l, "syntax error near unexpected token \x60" ++ t ++ "\x27\n\x60" ++ g.lineText l ++ "\x27")
    match ts with
    | ⟨.word w, l⟩ :: _ => near l w
    | ⟨.op o, l⟩ :: _ => near l o
    | ⟨.newline, l⟩ :: _ => near l "newline"
    | ⟨.ioNumber n, l⟩ :: _ => near l (toString n)
    | ⟨.hereDoc _ _, l⟩ :: _ => near l "<<"
    | ⟨.arith _, l⟩ :: _ => near l "(("
    | [] => .error (g.eofLine, "syntax error: unexpected end of file")

/-- The error for an unexpected token where the grammar wanted nothing in particular. -/
def unexpected {α : Type} (ts : List Token) (g : Grammar) : Except (Nat × String) α :=
  syntaxError ts g true none

/-- The error for a token that is not the one the grammar wanted, named as the POSIX shell
names it: a reserved word or an operator in quotes, or `word`. -/
def expected {α : Type} (what : String) (ts : List Token) (g : Grammar) : Except (Nat × String) α :=
  syntaxError ts g true (some what)

/-- Drops line breaks. -/
def skipNewlines : List Token → List Token
  | ⟨.newline, _⟩ :: rest => skipNewlines rest
  | ts => ts

/-- Whether the tokens start with the reserved word `w`. -/
def startsWithWord (w : String) : List Token → Bool
  | ⟨.word x, _⟩ :: _ => x == w
  | _ => false

/-- Whether the tokens start with the operator `o`. -/
def startsWithOp (o : String) : List Token → Bool
  | ⟨.op x, _⟩ :: _ => x == o
  | _ => false

/-- Expects the reserved word `w`. -/
def expectWord (w : String) (g : Grammar) (ts : List Token) : Except (Nat × String) (List Token) :=
  match ts with
  | ⟨.word x, _⟩ :: rest => if x == w then .ok rest else expected ("\"" ++ w ++ "\"") ts g
  | _ => expected ("\"" ++ w ++ "\"") ts g

/-- The message for a malformed `${...}`. -/
def badSubstitution (g : Grammar) (raw : String) : String :=
  if g.bash then raw ++ ": bad substitution" else "Bad substitution"

/-- A word token's parts. -/
def wordOf (g : Grammar) (raw : String) (line : Nat) : Except (Nat × String) Word :=
  match wordParts g.dialect raw line with
  | some w => .ok w
  | none => .error (line, badSubstitution g raw)

/-- The target of a here-document: its body, quoted as a whole when the delimiter was quoted,
else read for expansions. The body starts on the line after `line`. -/
def hereTarget (g : Grammar) (quoted : Bool) (body : String) (line : Nat) : Except (Nat × String) Word :=
  if quoted then .ok [.text body true]
  else
    match hereParts g.dialect body (line + 1) with
    | some w => .ok w
    | none => .error (line, badSubstitution g body)

/-- The redirection operators and the descriptor each applies to by default. -/
def redirectOp : String → Option (RedirectOp × Nat)
  | "<" => some (.input, 0)
  | ">" => some (.output, 1)
  | ">|" => some (.clobber, 1)
  | ">>" => some (.append, 1)
  | "<&" => some (.duplicateInput, 0)
  | ">&" => some (.duplicateOutput, 1)
  | "<>" => some (.readWrite, 0)
  | "<<<" => some (.hereString, 0)
  | _ => none

/-- The redirection of standard error to where standard output goes. -/
def errorToOutput : Redirect :=
  ⟨2, .duplicateOutput, [.text "1" true]⟩

/-- Reads a redirection at the start of the tokens, if there is one: what it opens, which is
two redirections for bash's `&>` and `&>>` (both outputs to one file). -/
def redirectAt (g : Grammar) (ts : List Token) : Option (ParseM (List Redirect × List Token)) :=
  let target (rest : List Token) (k : Word → List Redirect) : ParseM (List Redirect × List Token) :=
    match rest with
    | ⟨.word w, l⟩ :: rest' => (wordOf g w l).map fun t => (k t, rest')
    | _ => unexpected rest g
  let withFd (fd : Option Nat) (o : String) (rest : List Token) : Option (ParseM (List Redirect × List Token)) :=
    if o == "&>" then some (target rest fun t => [⟨1, .output, t⟩, errorToOutput])
    else if o == "&>>" then some (target rest fun t => [⟨1, .append, t⟩, errorToOutput])
    else (redirectOp o).map fun (op, dflt) => target rest fun t => [⟨fd.getD dflt, op, t⟩]
  let here (fd : Nat) (quoted : Bool) (body : String) (line : Nat) (rest : List Token) :
      ParseM (List Redirect × List Token) :=
    (hereTarget g quoted body line).map fun t => ([⟨fd, .hereDoc, t⟩], rest)
  match ts with
  | ⟨.ioNumber n, _⟩ :: ⟨.hereDoc q body, l⟩ :: rest => some (here n q body l rest)
  | ⟨.hereDoc q body, l⟩ :: rest => some (here 0 q body l rest)
  | ⟨.ioNumber n, _⟩ :: ⟨.op o, _⟩ :: rest => withFd (some n) o rest
  | ⟨.op o, _⟩ :: rest => withFd none o rest
  | _ => none

/-- Reads the redirections after a compound command. -/
def redirectsAfter (g : Grammar) : Nat → List Token → List Redirect → ParseM (List Redirect × List Token)
  | 0, ts, acc => .ok (acc, ts)
  | fuel + 1, ts, acc =>
    match redirectAt g ts with
    | some (.ok (r, rest)) => redirectsAfter g fuel rest (acc ++ r)
    | some (.error e) => .error e
    | none => .ok (acc, ts)

/-- The parts of an assignment word: its name, the subscript of the element it assigns, whether
it adds to the value (`+=`), and the value's source text. Subscripts and `+=` are bash's. -/
def assignmentOf (bash : Bool) (raw : String) : Option (String × Option String × Bool × String) :=
  let cs := raw.toList
  let name := cs.takeWhile isNameChar
  let rest := cs.drop name.length
  if !isName (String.ofList name) then none
  else
    let (index, rest) : Option String × List Char := match rest with
      | '[' :: more =>
        if bash then
          match subscriptOf (more.length + 1) 0 more [] with
          | some (sub, after) => (some sub, after)
          | none => (none, '[' :: more)
        else (none, rest)
      | _ => (none, rest)
    match rest with
    | '=' :: value => if index.isSome && !bash then none else some (String.ofList name, index, false, String.ofList value)
    | '+' :: '=' :: value => if bash then some (String.ofList name, index, true, String.ofList value) else none
    | _ => none

/-! ## Brace expansion -/

/-- The characters of a word up to the `\x7d` that closes a brace opened before them, split at
the commas outside inner braces and quotes: the pieces and the text after the brace. -/
def braceBody : Nat → Nat → List Char → List Char → List (List Char) →
    Option (List (List Char) × List Char)
  | 0, _, _, _, _ => none
  | _ + 1, _, [], _, _ => none
  | fuel + 1, depth, c :: rest, cur, pieces =>
    if c == '\\' then
      match rest with
      | d :: r => braceBody fuel depth r (d :: c :: cur) pieces
      | [] => none
    else if c == '\'' || c == '"' then
      let body := rest.takeWhile (· != c)
      if body.length == rest.length then none
      else braceBody fuel depth (rest.drop (body.length + 1)) (c :: body.reverse ++ c :: cur) pieces
    else if c == '$' && rest.head? == some '\x7b' then
      let body := rest.takeWhile (· != '\x7d')
      braceBody fuel depth (rest.drop (body.length + 1)) ('\x7d' :: body.reverse ++ c :: cur) pieces
    else if c == '\x7b' then braceBody fuel (depth + 1) rest (c :: cur) pieces
    else if c == '\x7d' && depth == 0 then some ((cur.reverse :: pieces).reverse, rest)
    else if c == '\x7d' then braceBody fuel (depth - 1) rest (c :: cur) pieces
    else if c == ',' && depth == 0 then braceBody fuel depth rest [] (cur.reverse :: pieces)
    else braceBody fuel depth rest (c :: cur) pieces

/-- The items of a sequence expression `x..y` or `x..y..step` between braces: integers counted
from `x` to `y`, padded with zeros to the wider end when one of them is written with a
leading zero, or single letters. -/
def braceSequence (body : List Char) : Option (List String) :=
  let text := String.ofList body
  let parts := text.splitOn ".."
  let readInt (s : String) : Option Int :=
    match s.toList with
    | '-' :: ds => if !ds.isEmpty && ds.all Char.isDigit then (String.ofList ds).toNat?.map (- ·) else none
    | '+' :: ds => if !ds.isEmpty && ds.all Char.isDigit then (String.ofList ds).toNat?.map (Int.ofNat ·) else none
    | ds => if !ds.isEmpty && ds.all Char.isDigit then (String.ofList ds).toNat?.map (Int.ofNat ·) else none
  let stepOf : Option String → Option Int
    | none => some 1
    | some s => readInt s
  let (lo, hi, step) : String × String × Option String := match parts with
    | [a, b] => (a, b, none)
    | [a, b, c] => (a, b, some c)
    | _ => ("", "", none)
  if lo.isEmpty then none
  else
    match readInt lo, readInt hi, stepOf step with
    | some x, some y, some st =>
      let st := if st == 0 then 1 else st.natAbs
      let count := (x - y).natAbs / st + 1
      let values : List Int := (List.range count).map fun k =>
        if x ≤ y then x + ((k * st : Nat) : Int) else x - ((k * st : Nat) : Int)
      let padded (s : String) : Bool :=
        let digits := if s.startsWith "-" || s.startsWith "+" then (s.drop 1).toString else s
        digits.length > 1 && digits.startsWith "0"
      let width := if padded lo || padded hi then max lo.length hi.length else 0
      some (values.map fun v =>
        let digits := toString v.natAbs
        let sign := if v < 0 then "-" else ""
        let pad := width - sign.length - digits.length
        sign ++ String.ofList (List.replicate pad '0') ++ digits)
    | _, _, some st =>
      match lo.toList, hi.toList with
      | [a], [b] =>
        if a.isAlpha && b.isAlpha then
          let st := if st == 0 then 1 else st.natAbs
          let (x, y) := (a.toNat, b.toNat)
          let count := (if x ≤ y then y - x else x - y) / st + 1
          some ((List.range count).map fun k =>
            String.singleton (Char.ofNat (if x ≤ y then x + k * st else x - k * st)))
        else none
      | _, _ => none
    | _, _, _ => none

/-- The words a word of bash stands for after brace expansion: the first brace outside quotes
and expansions that holds a comma at its top level or a sequence gives a word for each of its
items, the text before and after it around each, and each of those is expanded in turn. A
word without such a brace stands for itself. -/
def braceExpand : Nat → List Char → List String
  | 0, cs => [String.ofList cs]
  | fuel + 1, cs =>
    let rec scan : Nat → List Char → List Char → Option (List Char × List (List Char) × List Char)
      | 0, _, _ => none
      | _ + 1, [], _ => none
      | n + 1, c :: rest, before =>
        if c == '\\' then
          match rest with
          | d :: r => scan n r (d :: c :: before)
          | [] => none
        else if c == '\'' || c == '"' then
          let body := rest.takeWhile (· != c)
          scan n (rest.drop (body.length + 1)) (c :: body.reverse ++ c :: before)
        else if c == '$' && (rest.head? == some '\x7b' || rest.head? == some '(') then
          let close := if rest.head? == some '\x7b' then '\x7d' else ')'
          let body := rest.takeWhile (· != close)
          scan n (rest.drop (body.length + 1)) (close :: body.reverse ++ c :: before)
        else if c == '\x7b' then
          match braceBody (rest.length + 1) 0 rest [] [] with
          | some (pieces, after) =>
            if pieces.length ≥ 2 then some (before.reverse, pieces, after)
            else
              match pieces with
              | [one] =>
                match braceSequence one with
                | some items => some (before.reverse, items.map String.toList, after)
                | none => scan n rest (c :: before)
              | _ => scan n rest (c :: before)
          | none => scan n rest (c :: before)
        else scan n rest (c :: before)
    match scan (cs.length + 1) cs [] with
    | none => [String.ofList cs]
    | some (pre, items, post) =>
      items.flatMap fun item => braceExpand fuel (pre ++ item ++ post)

/-- The words a raw word stands for: brace expansion in bash, the word itself otherwise. -/
def Grammar.expandBraces (g : Grammar) (raw : String) : List String :=
  if g.bash && raw.contains '\x7b' then braceExpand (raw.length + 1) raw.toList else [raw]

/-- The parts of each word a raw word stands for. -/
def wordsOf (g : Grammar) (raw : String) (line : Nat) : ParseM (List Word) :=
  (g.expandBraces raw).mapM fun r => wordOf g r line

/-! ## Aliases -/

/-- The tokens a command word stands for under the aliases. An unquoted word that names an
alias, other than a reserved word and other than an alias whose text is being read already
(`used`), is replaced by the tokens of its text, read on the word's line, and the first word
of those is looked at in turn; when the text ends with a blank, the word after it is looked
at as well. An alias whose text is empty leaves the word after it in the command's place. -/
def expandAliases (dialect : Dialect) (aliases : AliasTable) : Nat → List String → List Token → List Token
  | 0, _, ts => ts
  | fuel + 1, used, ts =>
    match ts with
    | ⟨.word w, l⟩ :: rest =>
      if reservedWords.contains w || used.contains w then ts
      else
        match aliases.lookup w with
        | none => ts
        | some value =>
          let inserted := (tokenize dialect value l).1
          if inserted.isEmpty then expandAliases dialect aliases fuel used rest
          else
            let head := expandAliases dialect aliases fuel (w :: used) inserted
            if value.endsWith " " || value.endsWith "\t" then head ++ expandAliases dialect aliases fuel used rest
            else head ++ rest
    | _ => ts

/-- The tokens at a command word's place with its aliases replaced. -/
def atCommandWord (g : Grammar) (ts : List Token) : List Token :=
  if g.aliases.isEmpty then ts else expandAliases g.dialect g.aliases (g.aliases.length + ts.length + 1) [] ts

/-- Reads the items of an array assignment after its `(`, up to the `)`: each word with the
subscript written before it as `[subscript]=`, if any. -/
def arrayItems (g : Grammar) : Nat → List Token → List (Option String × Word) →
    ParseM (List (Option String × Word) × List Token)
  | 0, ts, _ => unexpected ts g
  | fuel + 1, ts, acc =>
    match skipNewlines ts with
    | ⟨.op ")", _⟩ :: rest => .ok (acc.reverse, rest)
    | ⟨.word raw, l⟩ :: rest =>
      let (index, text) : Option String × String := match raw.toList with
        | '[' :: more =>
          match subscriptOf (more.length + 1) 0 more [] with
          | some (sub, '=' :: value) => (some sub, String.ofList value)
          | _ => (none, raw)
        | _ => (none, raw)
      if index.isSome then
        match wordOf g text l with
        | .ok w => arrayItems g fuel rest ((index, w) :: acc)
        | .error e => .error e
      else
        match wordsOf g text l with
        | .ok ws => arrayItems g fuel rest ((ws.reverse.map fun w => (none, w)) ++ acc)
        | .error e => .error e
    | ts' => unexpected ts' g

/-- The builtins of bash that declare variables, whose arguments may assign whole arrays. -/
def declarationBuiltins : List String :=
  ["declare", "typeset", "local", "export", "readonly"]

/-- Whether the first word of a command is a builtin of bash that declares variables. -/
def isDeclaration (words : List Word) : Bool :=
  match words.getLast? with
  | some [.text t false] => declarationBuiltins.contains t
  | _ => false

/-- A simple command being read: its assignments, words and redirections, and the array
assignments among the arguments of a builtin of bash that declares variables (lists last
first). -/
structure SimpleParts where
  assignments : List Assignment := []
  words : List Word := []
  redirects : List Redirect := []
  declared : List Assignment := []

mutual

/-- Reads the rest of a simple command onto what is read so far. An array assignment among the
arguments of a builtin of bash that declares variables leaves its name as the argument. -/
def simpleFrom (g : Grammar) : Nat → List Token → SimpleParts → ParseM (SimpleParts × List Token)
  | 0, ts, p => .ok (p, ts)
  | fuel + 1, ts, p =>
    match redirectAt g ts with
    | some (.ok (red, rest)) => simpleFrom g fuel rest { p with redirects := p.redirects ++ red }
    | some (.error e) => .error e
    | none =>
      match ts with
      | ⟨.word raw, l⟩ :: ⟨.op "(", _⟩ :: rest' =>
        match (if g.bash && isDeclaration p.words then assignmentOf true raw else none) with
        | some (name, none, append, "") =>
          match arrayItems g (rest'.length + 1) rest' [] with
          | .ok (items, rest'') =>
            simpleFrom g fuel rest'' { p with words := [.text name false] :: p.words
                                              declared := { name, append, value := .array items } :: p.declared }
          | .error e => .error e
        | _ => simpleWord g fuel ts p raw l
      | ⟨.word raw, l⟩ :: _ => simpleWord g fuel ts p raw l
      | _ => .ok (p, ts)

/-- Reads a word of a simple command: an assignment while no word has come, else a word,
which bash expands for its braces. -/
def simpleWord (g : Grammar) : Nat → List Token → SimpleParts → String → Nat → ParseM (SimpleParts × List Token)
  | 0, ts, p, _, _ => .ok (p, ts)
  | fuel + 1, ts, p, raw, l =>
    let rest := ts.drop 1
    match (if p.words.isEmpty then assignmentOf g.bash raw else none) with
    | some (name, index, append, value) =>
      match value, rest with
      | "", ⟨.op "(", _⟩ :: rest' =>
        if g.bash && index.isNone then
          match arrayItems g (rest'.length + 1) rest' [] with
          | .ok (items, rest'') =>
            simpleFrom g fuel rest'' { p with assignments := { name, append, value := .array items } :: p.assignments }
          | .error e => .error e
        else unexpected rest g
      | _, _ =>
        match wordParts g.dialect value l with
        | some v => simpleFrom g fuel rest { p with assignments := { name, index, append, value := .scalar v } :: p.assignments }
        | none => .error (l, badSubstitution g value)
    | none =>
      -- after assignments, the first word is still a command word
      let expanded := if p.words.isEmpty && !p.assignments.isEmpty then atCommandWord g ts else ts
      match expanded with
      | ⟨.word raw', l'⟩ :: rest' =>
        match wordsOf g raw' l' with
        | .ok words => simpleFrom g fuel rest' { p with words := words.reverse ++ p.words }
        | .error e => .error e
      | _ => simpleFrom g fuel expanded p

end

/-- Reads a simple command; one with nothing in it is an error. Bash gives a simple command
the line of its last token. The array assignments among the arguments of a builtin that
declares variables run after it, or before it for `export` and `readonly`. -/
def parseSimple (g : Grammar) (ts : List Token) : ParseM (Command × List Token) :=
  match simpleFrom g (2 * ts.length + 2) ts {} with
  | .ok (p, rest) =>
    if p.assignments.isEmpty && p.words.isEmpty && p.redirects.isEmpty then unexpected ts g
    else
      let used := ts.take (ts.length - rest.length)
      let line := if g.bash then ((used.getLast?.map (·.line)).getD (lineOf g.eofLine ts))
        else lineOf g.eofLine ts
      let words := p.words.reverse
      let c := Command.simple line p.assignments.reverse words p.redirects
      match p.declared.reverse with
      | [] => .ok (c, rest)
      | arrays =>
        let sets := arrays.map fun a => Command.simple line [a] [] []
        let first := match words.head? with
          | some [.text t false] => t == "export" || t == "readonly"
          | _ => false
        .ok (.sequence (if first then sets ++ [c] else c :: sets), rest)
  | .error e => .error e

/-! ## Conditional expressions of bash -/

/-- The unary operators of `[[ ... ]]`. -/
def condUnaryOps : List String :=
  ["-a", "-b", "-c", "-d", "-e", "-f", "-g", "-h", "-k", "-p", "-r", "-s", "-t", "-u", "-w", "-x",
    "-G", "-L", "-N", "-O", "-S", "-z", "-n", "-o", "-v", "-R"]

/-- The binary operators of `[[ ... ]]`. -/
def condBinaryOps : List String :=
  ["==", "=", "!=", "<", ">", "=~", "-eq", "-ne", "-lt", "-le", "-gt", "-ge", "-nt", "-ot", "-ef"]

/-- The text of a token inside `[[ ... ]]`. -/
def condText : TokenKind → Option String
  | .word w => some w
  | .op o => some o
  | _ => none

/-- The source text of the regular expression after `=~`: the tokens up to `]]`, `&&` or `||`
outside parentheses, or a `)` that closes a group, put together. -/
def regexText : Nat → Nat → List Token → List String → String × List Token
  | 0, _, ts, acc => (String.join acc.reverse, ts)
  | _ + 1, _, [], acc => (String.join acc.reverse, [])
  | fuel + 1, depth, t :: rest, acc =>
    match t.kind with
    | .word "]]" => (String.join acc.reverse, t :: rest)
    | .op "&&" | .op "||" => if depth == 0 then (String.join acc.reverse, t :: rest) else regexText fuel depth rest ((condText t.kind).getD "" :: acc)
    | .op ")" => if depth == 0 then (String.join acc.reverse, t :: rest) else regexText fuel (depth - 1) rest (")" :: acc)
    | .op "(" => regexText fuel (depth + 1) rest ("(" :: acc)
    | .newline => (String.join acc.reverse, t :: rest)
    | k => regexText fuel depth rest ((condText k).getD "" :: acc)

mutual

/-- Reads `||` alternatives of a conditional expression. -/
def condOr (g : Grammar) : Nat → List Token → ParseM (CondExpr × List Token)
  | 0, ts => unexpected ts g
  | fuel + 1, ts => do
    let (first, rest) ← condAnd g fuel ts
    match skipNewlines rest with
    | ⟨.op "||", _⟩ :: rest' => do
      let (second, rest'') ← condOr g fuel (skipNewlines rest')
      pure (.either first second, rest'')
    | _ => pure (first, rest)

/-- Reads `&&` conjunctions of a conditional expression. -/
def condAnd (g : Grammar) : Nat → List Token → ParseM (CondExpr × List Token)
  | 0, ts => unexpected ts g
  | fuel + 1, ts => do
    let (first, rest) ← condNot g fuel ts
    match skipNewlines rest with
    | ⟨.op "&&", _⟩ :: rest' => do
      let (second, rest'') ← condAnd g fuel (skipNewlines rest')
      pure (.both first second, rest'')
    | _ => pure (first, rest)

/-- Reads a negated or plain term of a conditional expression. -/
def condNot (g : Grammar) : Nat → List Token → ParseM (CondExpr × List Token)
  | 0, ts => unexpected ts g
  | fuel + 1, ts =>
    match skipNewlines ts with
    | ⟨.word "!", _⟩ :: rest => do
      let (e, rest') ← condNot g fuel rest
      pure (.negate e, rest')
    | ts' => condPrimary g fuel ts'

/-- Reads a term of a conditional expression: a group, a unary test, a binary test or a word. -/
def condPrimary (g : Grammar) : Nat → List Token → ParseM (CondExpr × List Token)
  | 0, ts => unexpected ts g
  | fuel + 1, ts =>
    match ts with
    | ⟨.op "(", _⟩ :: rest => do
      let (e, rest') ← condOr g fuel (skipNewlines rest)
      match skipNewlines rest' with
      | ⟨.op ")", _⟩ :: rest'' => pure (e, rest'')
      | r => unexpected r g
    | ⟨.word w, l⟩ :: rest =>
      if w == "]]" then unexpected ts g
      else
        let binary? : Option (String × List Token) := match rest with
          | ⟨k, _⟩ :: after =>
            match condText k with
            | some o => if condBinaryOps.contains o then some (o, after) else none
            | none => none
          | [] => none
        match binary? with
        | some (o, after) => do
          let left ← wordOf g w l
          if o == "=~" then
            let (text, after') := regexText (after.length + 1) 0 after []
            if text.isEmpty then unexpected after g
            else do
              let right ← wordOf g text l
              pure (.binary o left right, after')
          else
            match after with
            | ⟨k, l'⟩ :: after' =>
              match condText k with
              | some r =>
                if r == "]]" then unexpected after g
                else do
                  let right ← wordOf g r l'
                  pure (.binary o left right, after')
              | none => unexpected after g
            | [] => unexpected after g
        | none =>
          if condUnaryOps.contains w then
            match rest with
            | ⟨.word x, l'⟩ :: after =>
              if x == "]]" then do
                let operand ← wordOf g w l
                pure (.word operand, rest)
              else do
                let operand ← wordOf g x l'
                pure (.unary w operand, after)
            | _ => do
              let operand ← wordOf g w l
              pure (.word operand, rest)
          else do
            let operand ← wordOf g w l
            pure (.word operand, rest)
    | _ => unexpected ts g

end

/-- Reads a conditional command after its `[[`, up to its `]]`. -/
def parseCond (g : Grammar) (line : Nat) (ts : List Token) : ParseM (Command × List Token) := do
  let (e, rest) ← condOr g (4 * ts.length + 8) (skipNewlines ts)
  let rest ← expectWord "]]" g (skipNewlines rest)
  pure (.cond line e, rest)

/-- The three parts of the header of an arithmetic `for`, split at its semicolons. -/
def arithForParts (text : String) : Option (String × String × String) :=
  match text.splitOn ";" with
  | [a, b, c] => some (a, b, c)
  | _ => none

/-- Whether a word may name a function: a name in the POSIX shell; in bash any word without
quotes, expansions or `=`. -/
def Grammar.isFunctionName (g : Grammar) (w : String) : Bool :=
  if g.bash then !w.isEmpty && !w.any fun c => c == '\'' || c == '"' || c == '$' || c == '=' || c == '\\' || c == backquote
  else isName w

mutual

/-- Reads a list of and-or lists up to a token that ends lists: a reserved word that closes
something (`then`, `else`, `elif`, `fi`, `do`, `done`, `esac`, `\x7d`), a `)`, a `;;` or the
end; what encloses the list says whether that token may stand there. A list that is `required`
holds a command unless the end comes first: a closing token in its place is unexpected. -/
def parseList (g : Grammar) (required : Bool) : Nat → List Token → List Command →
    ParseM (Command × List Token)
  | 0, ts, _ => unexpected ts g
  | fuel + 1, ts, acc =>
    let ts := skipNewlines ts
    let finished : Bool := match ts with
      | [] => true
      | ⟨.word w, _⟩ :: _ => ["then", "else", "elif", "fi", "do", "done", "esac", "\x7d"].contains w
      | ⟨.op o, _⟩ :: _ => o == ")" || o == ";;" || o == ";&" || o == ";;&"
      | _ => false
    if finished then
      if required && acc.isEmpty && !ts.isEmpty then unexpected ts g
      else .ok (.sequence acc.reverse, ts)
    else
      match parseAndOr g fuel ts with
      | .error e => .error e
      | .ok (c, rest) =>
        match rest with
        | ⟨.op ";", _⟩ :: rest' => parseList g required fuel rest' (c :: acc)
        | ⟨.op "&", _⟩ :: rest' => parseList g required fuel rest' (.background c :: acc)
        | ⟨.newline, _⟩ :: rest' => parseList g required fuel rest' (c :: acc)
        -- anything else ends the list, and what encloses it says whether it may stand there
        | _ => .ok (.sequence (c :: acc).reverse, rest)

/-- Reads pipelines joined by `&&` and `||`. -/
def parseAndOr (g : Grammar) : Nat → List Token → ParseM (Command × List Token)
  | 0, ts => unexpected ts g
  | fuel + 1, ts =>
    match parsePipeline g fuel ts with
    | .error e => .error e
    | .ok (first, rest) => andOrRest g fuel first rest

/-- Reads the `&&` and `||` steps after `first`. -/
def andOrRest (g : Grammar) : Nat → Command → List Token → ParseM (Command × List Token)
  | 0, first, ts => .ok (first, ts)
  | fuel + 1, first, ts =>
    match ts with
    | ⟨.op "&&", _⟩ :: rest =>
      match parsePipeline g fuel (skipNewlines rest) with
      | .ok (next, rest') => andOrRest g fuel (.andThen first next) rest'
      | .error e => .error e
    | ⟨.op "||", _⟩ :: rest =>
      match parsePipeline g fuel (skipNewlines rest) with
      | .ok (next, rest') => andOrRest g fuel (.orElse first next) rest'
      | .error e => .error e
    | _ => .ok (first, ts)

/-- Reads a pipeline, with an optional `!` in front. -/
def parsePipeline (g : Grammar) : Nat → List Token → ParseM (Command × List Token)
  | 0, ts => unexpected ts g
  | fuel + 1, ts =>
    let (negated, ts) := match ts with
      | ⟨.word "!", _⟩ :: rest => (true, rest)
      | ts => (false, ts)
    match parseCommand g fuel ts with
    | .error e => .error e
    | .ok (c, rest) =>
      match pipelineRest g fuel rest [c] with
      | .error e => .error e
      | .ok (stages, rest') =>
        match stages, negated with
        | [single], false => .ok (single, rest')
        | _, _ => .ok (.pipeline negated stages, rest')

/-- Reads the `|` stages after the ones read (last first). -/
def pipelineRest (g : Grammar) : Nat → List Token → List Command → ParseM (List Command × List Token)
  | 0, ts, acc => .ok (acc.reverse, ts)
  | fuel + 1, ts, acc =>
    match ts with
    | ⟨.op "|", _⟩ :: rest =>
      match parseCommand g fuel (skipNewlines rest) with
      | .ok (c, rest') => pipelineRest g fuel rest' (c :: acc)
      | .error e => .error e
    | ⟨.op "|&", _⟩ :: rest =>
      -- standard error goes down the pipe with standard output
      let acc := match acc with
        | c :: more => .redirected c [errorToOutput] :: more
        | [] => []
      match parseCommand g fuel (skipNewlines rest) with
      | .ok (c, rest') => pipelineRest g fuel rest' (c :: acc)
      | .error e => .error e
    | _ => .ok (acc.reverse, ts)

/-- Reads one command: a compound command with its redirections, or a simple command. -/
def parseCommand (g : Grammar) : Nat → List Token → ParseM (Command × List Token)
  | 0, ts => unexpected ts g
  | fuel + 1, ts =>
    let ts := atCommandWord g ts
    let withRedirects (r : ParseM (Command × List Token)) : ParseM (Command × List Token) :=
      match r with
      | .ok (c, rest) =>
        match redirectsAfter g (rest.length + 1) rest [] with
        | .ok ([], rest') => .ok (c, rest')
        | .ok (reds, rest') => .ok (.redirected c reds, rest')
        | .error e => .error e
      | .error e => .error e
    match ts with
    | ⟨.word "\x7b", _⟩ :: rest =>
      withRedirects do
        let (body, rest) ← parseList g true fuel rest []
        let rest ← expectWord "\x7d" g rest
        pure (.group body, rest)
    | ⟨.op "(", _⟩ :: rest =>
      withRedirects do
        let (body, rest) ← parseList g true fuel rest []
        match rest with
        | ⟨.op ")", _⟩ :: rest' => pure (.subshell body, rest')
        | _ => expected "\")\"" rest g
    | ⟨.word "if", _⟩ :: rest => withRedirects (parseIf g fuel rest)
    | ⟨.word "while", _⟩ :: rest => withRedirects (parseLoop g false fuel rest)
    | ⟨.word "until", _⟩ :: rest => withRedirects (parseLoop g true fuel rest)
    | ⟨.word "for", _⟩ :: rest => withRedirects (parseFor g fuel rest)
    | ⟨.word "case", _⟩ :: rest => withRedirects (parseCase g fuel rest)
    | ⟨.arith text, l⟩ :: rest => withRedirects (.ok (.arith l text, rest))
    | ⟨.word "[[", l⟩ :: rest =>
      if g.bash then withRedirects (parseCond g l rest) else parseSimple g ts
    | ⟨.word "function", l⟩ :: rest =>
      if !g.bash then parseSimple g ts
      else
        match rest with
        | ⟨.word w, _⟩ :: rest' =>
          let rest' := match rest' with
            | ⟨.op "(", _⟩ :: ⟨.op ")", _⟩ :: r => r
            | r => r
          if !g.isFunctionName w then unexpected rest g
          else do
            let (body, rest'') ← parseCommand g fuel (skipNewlines rest')
            pure (.function w l body, rest'')
        | _ => unexpected rest g
    | ⟨.word w, l⟩ :: ⟨.op "(", _⟩ :: ⟨.op ")", _⟩ :: rest =>
      if g.reserved.contains w then unexpected ts g
      else if !g.isFunctionName w then
        if g.bash then .error (l, "\x60" ++ w ++ "\x27: not a valid identifier")
        else .error (l, "Syntax error: Bad function name")
      else do
        let (body, rest) ← parseCommand g fuel (skipNewlines rest)
        pure (.function w l body, rest)
    | ⟨.word w, _⟩ :: _ =>
      if g.reserved.contains w then unexpected ts g
      else parseSimple g ts
    | _ => parseSimple g ts

/-- Reads an `if` command after its `if`. -/
def parseIf (g : Grammar) : Nat → List Token → ParseM (Command × List Token)
  | 0, ts => unexpected ts g
  | fuel + 1, ts => do
    let (cond, rest) ← parseList g true fuel ts []
    let rest ← expectWord "then" g rest
    let (body, rest) ← parseList g true fuel rest []
    match rest with
    | ⟨.word "elif", _⟩ :: rest' =>
      let (other, rest'') ← parseIf g fuel rest'
      pure (.ifThen cond body (some other), rest'')
    | ⟨.word "else", _⟩ :: rest' =>
      let (other, rest'') ← parseList g true fuel rest' []
      let rest'' ← expectWord "fi" g rest''
      pure (.ifThen cond body (some other), rest'')
    | _ =>
      let rest' ← expectWord "fi" g rest
      pure (.ifThen cond body none, rest')

/-- Reads a `while` or `until` loop after its first word. -/
def parseLoop (g : Grammar) (untilDone : Bool) : Nat → List Token → ParseM (Command × List Token)
  | 0, ts => unexpected ts g
  | fuel + 1, ts => do
    let (cond, rest) ← parseList g true fuel ts []
    let rest ← expectWord "do" g rest
    let (body, rest) ← parseList g true fuel rest []
    let rest ← expectWord "done" g rest
    pure (.loop untilDone cond body, rest)

/-- Reads a `for` loop after its `for`. -/
def parseFor (g : Grammar) : Nat → List Token → ParseM (Command × List Token)
  | 0, ts => unexpected ts g
  | fuel + 1, ts =>
    match ts with
    | ⟨.arith text, _⟩ :: rest =>
      match arithForParts text with
      | none => .error (lineOf g.eofLine ts, "syntax error: arithmetic expression required")
      | some (init, test, step) =>
        let rest := match rest with
          | ⟨.op ";", _⟩ :: r => r
          | r => r
        match skipNewlines rest with
        | ⟨.word "\x7b", _⟩ :: r => do
          let (body, r) ← parseList g true fuel r []
          let r ← expectWord "\x7d" g r
          pure (.forArith (lineOf g.eofLine ts) init test step body, r)
        | r => do
          let r ← expectWord "do" g r
          let (body, r) ← parseList g true fuel r []
          let r ← expectWord "done" g r
          pure (.forArith (lineOf g.eofLine ts) init test step body, r)
    | ⟨.word name, l⟩ :: rest =>
      if !isName name then
        if g.bash then .error (l, "\x60" ++ name ++ "\x27: not a valid identifier")
        else .error (l, "Syntax error: Bad for loop variable")
      else
        let afterName := skipNewlines rest
        let wordsPart : Except (Nat × String) (Option (List Word) × List Token) :=
          match afterName with
          | ⟨.word "in", _⟩ :: rest' =>
            let raws := rest'.takeWhile fun t => match t.kind with
              | .word _ => true
              | _ => false
            let after := rest'.drop raws.length
            let words := raws.mapM fun t => match t.kind with
              | .word w => wordsOf g w t.line
              | _ => .ok []
            match words with
            | .ok wss =>
              let ws := wss.flatten
              match after with
              | ⟨.op ";", _⟩ :: r => .ok (some ws, r)
              | ⟨.newline, _⟩ :: r => .ok (some ws, r)
              | _ => unexpected after g
            | .error e => .error e
          | ⟨.op ";", _⟩ :: r => .ok (none, r)
          | r => .ok (none, r)
        match wordsPart with
        | .error e => .error e
        | .ok (words, rest') => do
          let rest' ← expectWord "do" g (skipNewlines rest')
          let (body, rest') ← parseList g true fuel rest' []
          let rest' ← expectWord "done" g rest'
          pure (.forEach name words body, rest')
    | _ =>
      if g.bash then unexpected ts g
      else
        let line := match ts with
          | ⟨.newline, l⟩ :: _ => l + 1
          | ⟨_, l⟩ :: _ => l
          | [] => g.eofLine
        .error (line, "Syntax error: Bad for loop variable")

/-- Reads a `case` command after its `case`. -/
def parseCase (g : Grammar) : Nat → List Token → ParseM (Command × List Token)
  | 0, ts => unexpected ts g
  | fuel + 1, ts =>
    match ts with
    | ⟨.word raw, l⟩ :: rest => do
      let subject ← wordOf g raw l
      let rest ← expectWord "in" g (skipNewlines rest)
      let (arms, rest) ← caseArms g fuel rest []
      pure (.caseOf subject arms, rest)
    | _ => expected "word" ts g

/-- Reads the arms of a `case` up to its `esac`. -/
def caseArms (g : Grammar) : Nat → List Token → List (List Word × Command × ArmEnd) →
    ParseM (List (List Word × Command × ArmEnd) × List Token)
  | 0, ts, _ => unexpected ts g
  | fuel + 1, ts, acc =>
    let ts := skipNewlines ts
    match ts with
    | ⟨.word "esac", _⟩ :: rest => .ok (acc.reverse, rest)
    | _ =>
      let ts := match ts with
        | ⟨.op "(", _⟩ :: rest => rest
        | ts => ts
      match casePatterns g fuel ts [] with
      | .error e => .error e
      | .ok (patterns, rest) =>
        match parseList g false fuel rest [] with
        | .error e => .error e
        | .ok (body, rest) =>
          match rest with
          | ⟨.op ";;", _⟩ :: rest' => caseArms g fuel rest' ((patterns, body, .stop) :: acc)
          | ⟨.op ";&", _⟩ :: rest' => caseArms g fuel rest' ((patterns, body, .fallThrough) :: acc)
          | ⟨.op ";;&", _⟩ :: rest' => caseArms g fuel rest' ((patterns, body, .testNext) :: acc)
          | ⟨.word "esac", _⟩ :: rest' => .ok (((patterns, body, .stop) :: acc).reverse, rest')
          | _ => expected "\";;\"" rest g

/-- Reads the patterns of a `case` arm up to its `)`. The POSIX shell takes whatever token
stands in a pattern's place as the pattern, and then wants a `|` or the `)`; a token of
another kind is a pattern that matches nothing. -/
def casePatterns (g : Grammar) : Nat → List Token → List Word → ParseM (List Word × List Token)
  | 0, ts, _ => unexpected ts g
  | fuel + 1, ts, acc =>
    let next (w : Word) (rest : List Token) : ParseM (List Word × List Token) :=
      match rest with
      | ⟨.op "|", _⟩ :: rest' => casePatterns g fuel rest' (w :: acc)
      | ⟨.op ")", _⟩ :: rest' => .ok ((w :: acc).reverse, rest')
      | _ => if g.bash then unexpected rest g else syntaxError rest g false (some "\")\"")
    match ts with
    | ⟨.word raw, l⟩ :: rest =>
      match wordOf g raw l with
      | .error e => .error e
      | .ok w => next w rest
    | _ :: rest => if g.bash then unexpected ts g else next [] rest
    | [] => if g.bash then unexpected ts g else expected "\")\"" ts g

end

/-- Reads the rest of one top-level line onto the commands read so far (last first): and-or
lists separated by `;` or `&`, up to a line break outside any compound command. -/
def lineFrom (g : Grammar) : Nat → List Token → List Command → ParseM (Command × List Token)
  | 0, ts, _ => unexpected ts g
  | fuel + 1, ts, acc =>
    let done (rest : List Token) : ParseM (Command × List Token) :=
      match acc with
      | [c] => .ok (c, rest)
      | _ => .ok (.sequence acc.reverse, rest)
    match ts with
    | [] => done []
    | ⟨.newline, _⟩ :: rest => done rest
    | _ =>
      match parseAndOr g (8 * ts.length + 16) ts with
      | .error e => .error e
      | .ok (c, rest) =>
        match rest with
        | ⟨.op ";", _⟩ :: r => lineFrom g fuel r (c :: acc)
        | ⟨.op "&", _⟩ :: r => lineFrom g fuel r (.background c :: acc)
        | ⟨.newline, _⟩ :: r => lineFrom g fuel (⟨.newline, 0⟩ :: r) (c :: acc)
        | [] => lineFrom g fuel [] (c :: acc)
        | _ => unexpected rest g

/-- Reads one top-level line of commands. -/
def parseLine (g : Grammar) (ts : List Token) : ParseM (Command × List Token) :=
  lineFrom g (ts.length + 2) ts []

/-- Whether a syntax error says that the tokens ended too soon. -/
def endedTooSoon (e : Nat × String) : Bool :=
  e.2.startsWith "Syntax error: end of file unexpected" || e.2.startsWith "syntax error: unexpected end of file"

/-- The next top-level line of a script's tokens, read under the aliases: the line it starts
on, its command and the tokens after it. The reading stops with `none` when the tokens are
used up, or with the error to report: an error of the tokens stops it at the line they stop
in, and takes the place of an error of the grammar that only says the tokens ended. -/
def nextLine (g : Grammar) (tokenError : Option (Nat × String))
    (ts : List Token) : Except (Option (Nat × String)) (Nat × Command × List Token) :=
  match skipNewlines ts with
  | [] => .error tokenError
  | ts' =>
    match parseLine g ts' with
    | .ok (c, rest) =>
      let cut := rest.isEmpty && tokenError.isSome &&
        ts'.getLast?.map (·.kind) != some TokenKind.newline
      if cut then .error tokenError
      else .ok (lineOf g.eofLine ts', c, rest)
    | .error e =>
      match tokenError with
      | some te => .error (some (if endedTooSoon e then te else e))
      | none => .error (some e)

/-- The last line of a script whose text starts on line `firstLine`. -/
def lastLineOf (source : String) (firstLine : Nat) : Nat :=
  firstLine + (source.toList.filter (· == '\n')).length

/-- The grammar for a script of a dialect whose text starts on line `firstLine`, read under a
table of aliases. -/
def Grammar.ofScript (dialect : Dialect) (aliases : AliasTable) (source : String) (firstLine : Nat) :
    Grammar :=
  { dialect, aliases, eofLine := lastLineOf source firstLine, firstLine,
    lines := (source.splitOn "\n").toArray }

/-- The top-level commands of a script whose text starts on line `firstLine`, read under one
table of aliases, each with the line it starts on, and the error that stops the reading, if
any. -/
def parseScript (dialect : Dialect) (aliases : AliasTable) (source : String) (firstLine : Nat) :
    List (Nat × Command) × Option (Nat × String) :=
  let g := Grammar.ofScript dialect aliases source firstLine
  let (ts, tokenError) := tokenize dialect source firstLine
  let rec go : Nat → List Token → List (Nat × Command) → List (Nat × Command) × Option (Nat × String)
    | 0, _, acc => (acc.reverse, none)
    | fuel + 1, ts, acc =>
      match nextLine g tokenError ts with
      | .ok (line, c, rest) => go fuel rest ((line, c) :: acc)
      | .error e => (acc.reverse, e)
  go (ts.length + 1) ts []

end Regress.Shell
