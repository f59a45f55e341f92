import Regress.Shell.Syntax

/-!
# The tokens of shell scripts

The first step of reading a script cuts its text into tokens: words, operators, line breaks,
the numbers that name a file descriptor before a redirection, and here-documents. Blanks,
comments and line continuations go.

* A word runs to the first unquoted blank or operator character. Quotes, backslashes and the
  bodies of `$(...)`, `${...}` and backquotes are skipped whole, so a word may span lines. A
  quote or a nested piece that is never closed is an error, reported for the innermost piece
  open there: at the end of the text, or in bash at the line the word starts on (at the end of
  the text for a `$(` left open).
* Bash has more operators (`;;&`, `;&`, `<<<`, `&>`, `&>>`, `|&`), and `((` opens an
  arithmetic command whose text runs to the matching `))`.
* `<<` and `<<-` take the next word as the delimiter of a here-document. Its body is the lines
  after the next line break, up to a line that is the delimiter; `<<-` takes the tabs off the
  front of every line first. A delimiter with any quoting in it gives a body read as it is, the
  quoting removed from the delimiter. Several here-documents on one line take their bodies in
  order, and a body that meets the end of the text ends there; bash warns of that.

Every token carries the line it starts on. Tokens are read up to the first error, which comes
with its line, so that the lines before it can still run.
-/

namespace Regress.Shell

/-- What a token is. -/
inductive TokenKind where
  | word (raw : String)
  | op (s : String)
  | ioNumber (n : Nat)
  | newline
  | hereDoc (quoted : Bool) (body : String)
  | arith (text : String)
  deriving Repr, DecidableEq, Inhabited

/-- A token and the line it is on. -/
structure Token where
  kind : TokenKind
  line : Nat
  deriving Repr, DecidableEq, Inhabited

/-- Characters that end a word when they are not quoted. -/
def isMeta (c : Char) : Bool :=
  c == ' ' || c == '\t' || c == '\n' || c == ';' || c == '&' || c == '|' || c == '<' ||
    c == '>' || c == '(' || c == ')'

/-- The backquote character. -/
def backquote : Char := '\x60'

/-- What surrounds a nested piece of text. -/
inductive Nest where
  | single
  | double
  | paren
  | brace
  | back
  | ansi
  | arith
  deriving Repr, DecidableEq

/-- The syntax error for a nested piece that the end of the text leaves open. -/
def Nest.unclosed : Nest → String
  | .single | .double | .ansi => "Syntax error: Unterminated quoted string"
  | .paren => "Syntax error: end of file unexpected (expecting \")\")"
  | .arith => "Syntax error: Missing \x27))\x27"
  | .brace => "Syntax error: Missing \x27\x7d\x27"
  | .back => "Syntax error: EOF in backquote substitution"

/-- The error of bash for a nested piece that the end of the text leaves open. -/
def Nest.bashUnclosed (n : Nest) : String :=
  let closing := match n with
    | .single | .ansi => "\x27"
    | .double => "\""
    | .paren | .arith => ")"
    | .brace => "\x7d"
    | .back => "\x60"
  "unexpected EOF while looking for matching \x60" ++ closing ++ "\x27"

/-- The text after a nested piece whose opening is already read, or the error for the
innermost piece left open. In parentheses `depth` counts the ones still open inside. In bash
(`bash`), `$\x27...\x27` outside double quotes is a quote in which a backslash escapes the next
character. -/
def skipNest (bash : Bool) : Nat → Nest → Nat → List Char → Except Nest (List Char)
  | 0, mode, _, _ => .error mode
  | _ + 1, mode, _, [] => .error mode
  | fuel + 1, mode, depth, c :: rest =>
    let inner (m : Nest) (r : List Char) : Except Nest (List Char) :=
      (skipNest bash fuel m 0 r).bind (skipNest bash fuel mode depth)
    match mode with
    | .single => if c == '\'' then .ok rest else skipNest bash fuel mode depth rest
    | .ansi =>
      if c == '\'' then .ok rest
      else if c == '\\' then skipNest bash fuel mode depth (rest.drop 1)
      else skipNest bash fuel mode depth rest
    | .back =>
      if c == backquote then .ok rest
      else if c == '\\' then skipNest bash fuel mode depth (rest.drop 1)
      else skipNest bash fuel mode depth rest
    | .double =>
      if c == '"' then .ok rest
      else if c == '\\' then skipNest bash fuel mode depth (rest.drop 1)
      else if c == backquote then inner .back rest
      else if c == '$' && rest.head? == some '(' then inner .paren (rest.drop 1)
      else if c == '$' && rest.head? == some '{' then inner .brace (rest.drop 1)
      else skipNest bash fuel mode depth rest
    | .paren | .arith =>
      if c == ')' then (if depth == 0 then .ok rest else skipNest bash fuel mode (depth - 1) rest)
      else if c == '(' then skipNest bash fuel mode (depth + 1) rest
      else if c == '\\' then skipNest bash fuel mode depth (rest.drop 1)
      else if bash && c == '$' && rest.head? == some '\'' then inner .ansi (rest.drop 1)
      else if c == '\'' then inner .single rest
      else if c == '"' then inner .double rest
      else if c == backquote then inner .back rest
      else if c == '$' && rest.head? == some '{' then inner .brace (rest.drop 1)
      else skipNest bash fuel mode depth rest
    | .brace =>
      if c == '}' then .ok rest
      else if c == '\\' then skipNest bash fuel mode depth (rest.drop 1)
      else if bash && c == '$' && rest.head? == some '\'' then inner .ansi (rest.drop 1)
      else if c == '\'' then inner .single rest
      else if c == '"' then inner .double rest
      else if c == backquote then inner .back rest
      else if c == '$' && rest.head? == some '(' then inner .paren (rest.drop 1)
      else if c == '$' && rest.head? == some '{' then inner .brace (rest.drop 1)
      else skipNest bash fuel mode depth rest

/-- The text after the word at the start of `cs`, or the piece left open, and whether it is
one bash reports where the word starts: any but a command substitution. -/
def afterWord (bash : Bool) : Nat → List Char → Except (Nest × Bool) (List Char)
  | 0, _ => .error (.single, true)
  | _ + 1, [] => .ok []
  | fuel + 1, c :: rest =>
    let nested (m : Nest) (r : List Char) : Except (Nest × Bool) (List Char) :=
      match skipNest bash (r.length + 1) m 0 r with
      | .ok after => afterWord bash fuel after
      | .error n =>
        -- an arithmetic expansion is reported where it starts, a command substitution at the end
        let arithmetic := m == .paren && r.head? == some '('
        .error (if arithmetic && n == .paren then .arith else n, n != .paren || arithmetic)
    if isMeta c then .ok (c :: rest)
    else if c == '\\' then afterWord bash fuel (rest.drop 1)
    else if bash && c == '$' && rest.head? == some '\'' then nested .ansi (rest.drop 1)
    else if c == '\'' then nested .single rest
    else if c == '"' then nested .double rest
    else if c == backquote then nested .back rest
    else if c == '$' && rest.head? == some '(' then nested .paren (rest.drop 1)
    else if c == '$' && rest.head? == some '{' then nested .brace (rest.drop 1)
    else afterWord bash fuel rest

/-- The operators, longest first. -/
def operators : List String :=
  ["&&", "||", ";;", "<<-", "<<", ">>", "<&", ">&", "<>", ">|", ";", "&", "|", "(", ")", "<",
    ">"]

/-- The operators of bash, longest first: here-strings, redirections of both outputs, the pipe
of both outputs and the fall-through ends of `case` arms besides those of the POSIX shell. -/
def bashOperators : List String :=
  ["&&", "||", ";;&", ";;", ";&", "<<<", "<<-", "<<", "&>>", "&>", ">>", "<&", ">&", "<>", ">|",
    "|&", ";", "&", "|", "(", ")", "<", ">"]

/-- The operators of a dialect. -/
def operatorsOf (bash : Bool) : List String :=
  if bash then bashOperators else operators

/-- The body of a `((...))` after its opening and the text after its closing `))`: parentheses
inside nest, and quotes and expansions are skipped whole. -/
def arithBody (bash : Bool) : Nat → Nat → List Char → List Char → Option (String × List Char)
  | 0, _, _, _ => none
  | _ + 1, _, [], _ => none
  | fuel + 1, depth, c :: rest, acc =>
    if c == ')' && depth == 0 then
      match rest with
      | ')' :: after => some (String.ofList acc.reverse, after)
      | _ => none
    else if c == ')' then arithBody bash fuel (depth - 1) rest (c :: acc)
    else if c == '(' then arithBody bash fuel (depth + 1) rest (c :: acc)
    else if c == '$' && (rest.head? == some '(' || rest.head? == some '\x7b') then
      match skipNest bash (rest.length + 1) (if rest.head? == some '(' then .paren else .brace) 0 (rest.drop 1) with
      | .ok after =>
        let piece := (c :: rest).take (rest.length + 1 - after.length)
        arithBody bash fuel depth after (piece.reverse ++ acc)
      | .error _ => none
    else arithBody bash fuel depth rest (c :: acc)

/-- A delimiter word without its quoting, and whether it had any. -/
def delimiterOf (raw : List Char) : String × Bool :=
  let quoted := raw.any fun c => c == '\'' || c == '"' || c == '\\'
  let rec strip : List Char → List Char
    | '\\' :: c :: rest => c :: strip rest
    | '\'' :: rest => strip rest
    | '"' :: rest => strip rest
    | c :: rest => c :: strip rest
    | [] => []
  (String.ofList (strip raw), quoted)

/-- A here-document waiting for its body: where its token is, whether tabs are taken off, and
its delimiter. -/
structure PendingDoc where
  index : Nat
  stripTabs : Bool
  delimiter : String
  deriving Repr, Inhabited

/-- Reads the body of a here-document from the lines of `cs`: the body, the text after the
delimiter line, the number of lines read, and whether the delimiter line came. -/
def readBody (stripTabs : Bool) (delimiter : String) : Nat → List Char → String → Nat →
    String × List Char × Nat × Bool
  | 0, cs, acc, n => (acc, cs, n, false)
  | _ + 1, [], acc, n => (acc, [], n, false)
  | fuel + 1, cs, acc, n =>
    let line := cs.takeWhile (· != '\n')
    let rest := cs.drop (line.length + 1)
    let hasBreak := line.length < cs.length
    let line := if stripTabs then line.dropWhile (· == '\t') else line
    if String.ofList line == delimiter then (acc, rest, n + 1, true)
    else
      readBody stripTabs delimiter fuel rest
        (acc ++ String.ofList line ++ (if hasBreak then "\n" else "")) (n + 1)

/-- Reads the bodies of the waiting here-documents in order into their tokens: the tokens, the
text after the bodies, the number of lines read, and bash's warnings for bodies the end of the
text closed, each with the line it is reported on. -/
def fillBodies (cs : List Char) (tokens : Array Token) :
    List PendingDoc → Array Token × List Char × Nat × List (Nat × String)
  | [] => (tokens, cs, 0, [])
  | d :: ds =>
    let (body, rest, n, found) := readBody d.stripTabs d.delimiter (cs.length + 1) cs "" 0
    let line := match tokens[d.index]? with
      | some t => t.line
      | none => 0
    let tokens := match tokens[d.index]? with
      | some ⟨.hereDoc q _, l⟩ => tokens.set! d.index ⟨.hereDoc q body, l⟩
      | _ => tokens
    let warning := if found then [] else
      [(line + n, "warning: here-document at line " ++ toString line ++
        " delimited by end-of-file (wanted \x60" ++ d.delimiter ++ "\x27)")]
    let (tokens, rest, m, more) := fillBodies rest tokens ds
    (tokens, rest, n + m, warning ++ more)

/-- The description of what stands at the start of `cs`, for a syntax error there. -/
def describeNext (cs : List Char) : String :=
  match cs with
  | [] => "end of file"
  | '\n' :: _ => "newline"
  | _ =>
    match operators.find? fun o => cs.take o.length == o.toList with
    | some o => "\"" ++ o ++ "\""
    | none => "\"" ++ String.ofList (cs.takeWhile (!isMeta ·)) ++ "\""

/-- Cuts text into tokens from line `line`, onto the tokens read so far and the here-documents
waiting for their bodies: the tokens, and the error that stopped the reading with its line.
`eofLine` is the line of the end of the text. -/
def tokenizeFrom (bash : Bool) (eofLine : Nat) : Nat → Nat → List Char → Array Token → List PendingDoc →
    Array Token × Option (Nat × String) × List (Nat × String)
  | 0, line, _, acc, _ => (acc, some (line, "script too long"), [])
  | _ + 1, _, [], acc, _ => (acc, none, [])
  | fuel + 1, line, c :: rest, acc, pending =>
    let unclosed (e : Nest × Bool) : Option (Nat × String) :=
      if bash then some (if e.2 then line else eofLine, e.1.bashUnclosed) else some (eofLine, e.1.unclosed)
    if c == ' ' || c == '\t' then tokenizeFrom bash eofLine fuel line rest acc pending
    else if c == '\\' && rest.head? == some '\n' then
      tokenizeFrom bash eofLine fuel (line + 1) (rest.drop 1) acc pending
    else if c == '#' then
      tokenizeFrom bash eofLine fuel line ((c :: rest).dropWhile (· != '\n')) acc pending
    else if c == '\n' then
      let acc := acc.push ⟨.newline, line⟩
      let (acc, rest, n, warnings) := fillBodies rest acc pending
      let (acc, err, more) := tokenizeFrom bash eofLine fuel (line + 1 + n) rest acc []
      (acc, err, (if bash then warnings else []) ++ more)
    else if bash && c == '(' && rest.head? == some '(' then
      match arithBody bash (rest.length + 1) 0 (rest.drop 1) [] with
      | some (body, after) =>
        tokenizeFrom bash eofLine fuel (line + (body.toList.filter (· == '\n')).length) after
          (acc.push ⟨.arith body, line⟩) pending
      | none => tokenizeFrom bash eofLine fuel line rest (acc.push ⟨.op "(", line⟩) pending
    else
      let cs := c :: rest
      match (operatorsOf bash).find? fun o => cs.take o.length == o.toList with
      | some o =>
        let after := cs.drop o.length
        if o == "<<" || o == "<<-" then
          let after := after.dropWhile fun c => c == ' ' || c == '\t'
          match after with
          | [] => (acc, some (eofLine, "Syntax error: end of file unexpected"), [])
          | d :: _ =>
            if isMeta d then
              -- a line break is reported on the line it begins
              (acc, some (if d == '\n' then line + 1 else line,
                "Syntax error: " ++ describeNext after ++ " unexpected"), [])
            else
              match afterWord bash (after.length + 1) after with
              | .error e => (acc, unclosed e, [])
              | .ok rest' =>
                let raw := after.take (after.length - rest'.length)
                let (delimiter, quoted) := delimiterOf raw
                let doc : PendingDoc := ⟨acc.size, o == "<<-", delimiter⟩
                tokenizeFrom bash eofLine fuel line rest' (acc.push ⟨.hereDoc quoted "", line⟩)
                  (pending ++ [doc])
        else tokenizeFrom bash eofLine fuel line after (acc.push ⟨.op o, line⟩) pending
      | none =>
        let digits := cs.takeWhile Char.isDigit
        let after := cs.drop digits.length
        if !digits.isEmpty && (after.head? == some '<' || after.head? == some '>') then
          let n := digits.foldl (fun a d => a * 10 + (d.toNat - '0'.toNat)) 0
          tokenizeFrom bash eofLine fuel line after (acc.push ⟨.ioNumber n, line⟩) pending
        else
          match afterWord bash (cs.length + 1) cs with
          | .error e => (acc, unclosed e, [])
          | .ok after =>
            let raw := cs.take (cs.length - after.length)
            let lines := (raw.filter (· == '\n')).length
            tokenizeFrom bash eofLine fuel (line + lines) after
              (acc.push ⟨.word (String.ofList raw), line⟩) pending

/-- Cuts a script into tokens, counting lines from `firstLine`: the tokens, the error that
stopped the reading, if any, and the warnings of bash, each with its line. -/
def tokenizeWarning (dialect : Dialect) (source : String) (firstLine : Nat) :
    List Token × Option (Nat × String) × List (Nat × String) :=
  let cs := source.toList
  let eofLine := firstLine + (cs.filter (· == '\n')).length
  let (ts, err, warnings) := tokenizeFrom (dialect == .bash) eofLine (cs.length + 1) firstLine cs #[] []
  (ts.toList, err, warnings)

/-- Cuts a script into tokens, counting lines from `firstLine`: the tokens and the error that
stopped the reading, if any. -/
def tokenize (dialect : Dialect) (source : String) (firstLine : Nat) :
    List Token × Option (Nat × String) :=
  let (ts, err, _) := tokenizeWarning dialect source firstLine
  (ts, err)

end Regress.Shell
