import Regress.Shell.Syntax
import Regress.Shell.Token
import Regress.Shell.Backslash

/-!
# Reading words

A word token keeps its source text; its parts are read from that text when it is parsed.

* Single quotes keep everything up to the next single quote. A backslash outside quotes keeps
  the next character, and before a line break removes both.
* Double quotes keep their text, but `$` and backquotes still expand in them, and a backslash
  keeps its meaning only before `$`, a backquote, `"`, a backslash or a line break.
* `$name`, `$1`, `$@` and the other special parameters, and `${...}` with its operators, are
  parameter expansions. `$(...)` and backquotes are command substitutions, `$((...))` is an
  arithmetic expansion.
* Bash adds `$'...'` with the escapes of C, array subscripts `${a[i]}`, and the operators
  `${x:o:n}`, `${x/p/r}`, `${x^^}`, `${x,,}`, `${!x}` and `${x@Q}` with their kin.

The body of a here-document is read like double-quoted text in which `"` is an ordinary
character. A command substitution keeps the line it starts on.
-/

namespace Regress.Shell

/-- Whether a character can start a variable name. -/
def isNameStart (c : Char) : Bool :=
  (c.toNat < 128 && c.isAlpha) || c == '_'

/-- Whether a character can continue a variable name. -/
def isNameChar (c : Char) : Bool :=
  (c.toNat < 128 && c.isAlphanum) || c == '_'

/-- Whether a text is a variable name. -/
def isName (s : String) : Bool :=
  match s.toList with
  | c :: rest => isNameStart c && rest.all isNameChar
  | [] => false

/-- The parameters named by one character. -/
def isSpecialParam (c : Char) : Bool :=
  c == '@' || c == '*' || c == '#' || c == '?' || c == '-' || c == '$' || c == '!' || c.isDigit

/-- The name at the start of a `${...}` body and the text after it. -/
def braceName (cs : List Char) : Option (String × List Char) :=
  match cs with
  | c :: rest =>
    if isNameStart c then
      let name := cs.takeWhile isNameChar
      some (String.ofList name, cs.drop name.length)
    else if c.isDigit then
      let digits := cs.takeWhile Char.isDigit
      some (String.ofList digits, cs.drop digits.length)
    else if isSpecialParam c then some (String.singleton c, rest)
    else none
  | [] => none

/-- Reads the body of a `${...}` expansion. -/
def braceExpansion (body : List Char) : Option (String × ParamOp) :=
  match body with
  | '#' :: rest =>
    if rest.isEmpty then some ("#", .value)
    else
      match braceName rest with
      | some (name, []) => some (name, .length)
      | _ =>
        match rest with
        | c :: _ => if c == ':' || c == '-' || c == '=' || c == '+' || c == '?' || c == '%' || c == '#'
            then braceOperator "#" rest else none
        | [] => none
  | _ =>
    match braceName body with
    | none => none
    | some (name, rest) => braceOperator name rest
where
  /-- The operator after the name of a `${...}` expansion. -/
  braceOperator (name : String) (rest : List Char) : Option (String × ParamOp) :=
    let word (n : Nat) : String := String.ofList (rest.drop n)
    match rest with
    | [] => some (name, .value)
    | ':' :: '-' :: _ => some (name, .useDefault true (word 2))
    | ':' :: '=' :: _ => some (name, .assignDefault true (word 2))
    | ':' :: '+' :: _ => some (name, .useAlternative true (word 2))
    | ':' :: '?' :: _ => some (name, .failIfUnset true (word 2))
    | '-' :: _ => some (name, .useDefault false (word 1))
    | '=' :: _ => some (name, .assignDefault false (word 1))
    | '+' :: _ => some (name, .useAlternative false (word 1))
    | '?' :: _ => some (name, .failIfUnset false (word 1))
    | '%' :: '%' :: _ => some (name, .removeSuffix true (word 2))
    | '%' :: _ => some (name, .removeSuffix false (word 1))
    | '#' :: '#' :: _ => some (name, .removePrefix true (word 2))
    | '#' :: _ => some (name, .removePrefix false (word 1))
    | _ => none

/-- The body of a backquoted substitution with its escapes undone: a backslash before `$`, a
backquote or a backslash, and in double quotes before `"`, stands for that character. -/
def unescapeBackquoted (quoted : Bool) : List Char → List Char
  | '\\' :: c :: rest =>
    if c == '$' || c == backquote || c == '\\' || (quoted && c == '"') then
      c :: unescapeBackquoted quoted rest
    else '\\' :: c :: unescapeBackquoted quoted rest
  | c :: rest => c :: unescapeBackquoted quoted rest
  | [] => []

/-- The number of line breaks in a text. -/
def breaks (cs : List Char) : Nat :=
  (cs.filter (· == '\n')).length

/-- The text of a `$\x27...\x27` quote after its opening, with its escapes done, and the text after
its closing quote. The escapes are those of C: `\a \b \e \E \f \n \r \t \v`, a backslash, a
quote or a question mark after a backslash, up to three octal digits, `\x` with up to two
hexadecimal digits, `\u` and `\U` with up to four and eight (a character beyond ASCII is
written as its escape, as the C locale has no octets for it), and `\c` with a letter for a
control character; any other backslash stays. A character of code zero ends the text. -/
def ansiQuoted : Nat → List Char → String → Option (String × List Char)
  | 0, _, _ => none
  | _ + 1, [], _ => none
  | fuel + 1, c :: rest, acc =>
    if c == '\'' then some (acc, rest)
    else if c == '\\' then
      match rest with
      | [] => none
      | e :: after =>
        let simple : Option Char :=
          if e == 'a' then some '\x07' else if e == 'b' then some '\x08'
          else if e == 'e' || e == 'E' then some '\x1b' else if e == 'f' then some '\x0c'
          else if e == 'n' then some '\n' else if e == 'r' then some '\r'
          else if e == 't' then some '\t' else if e == 'v' then some '\x0b'
          else if e == '\\' || e == '\'' || e == '"' || e == '?' then some e
          else none
        let code (v : Nat) (rest' : List Char) : Option (String × List Char) :=
          if v == 0 then
            -- the text ends at a character of code zero; the rest of the quote is skipped
            some (acc, (rest'.dropWhile (· != '\'')).drop 1)
          else ansiQuoted fuel rest' (acc.push (Char.ofNat v))
        match simple with
        | some d => ansiQuoted fuel after (acc.push d)
        | none =>
          if '0' ≤ e && e ≤ '7' then
            let (v, n) := leadingDigits 8 3 (e :: after)
            code (v % 256) ((e :: after).drop n)
          else if e == 'x' || e == 'u' || e == 'U' then
            let (v, n) := leadingDigits 16 (if e == 'x' then 2 else if e == 'u' then 4 else 8) after
            if n == 0 then ansiQuoted fuel after ((acc.push '\\').push e)
            else if e != 'x' && v > 0x7F then
              -- the character has no form in the C locale: it is written as an escape
              ansiQuoted fuel (after.drop n) (acc ++ universalEscape v)
            else code v (after.drop n)
          else if e == 'c' then
            match after with
            | x :: after' => code (x.toUpper.toNat % 32) after'
            | [] => ansiQuoted fuel after ((acc.push '\\').push e)
          else ansiQuoted fuel after ((acc.push '\\').push e)
    else ansiQuoted fuel rest (acc.push c)

/-- The subscript of an array after its name in a `${...}` body: the text between the brackets
(which may nest) and the text after them. -/
def subscriptOf : Nat → Nat → List Char → List Char → Option (String × List Char)
  | 0, _, _, _ => none
  | _ + 1, _, [], _ => none
  | fuel + 1, depth, c :: rest, acc =>
    if c == ']' && depth == 0 then some (String.ofList acc.reverse, rest)
    else if c == ']' then subscriptOf fuel (depth - 1) rest (c :: acc)
    else if c == '[' then subscriptOf fuel (depth + 1) rest (c :: acc)
    else subscriptOf fuel depth rest (c :: acc)

/-- The text up to the first `/` that is neither escaped nor inside quotes or an expansion, and
the text after it (`none` when there is no such `/`). -/
def splitAtSlash : Nat → List Char → List Char → List Char × Option (List Char)
  | 0, cs, acc => (acc.reverse ++ cs, none)
  | _ + 1, [], acc => (acc.reverse, none)
  | fuel + 1, c :: rest, acc =>
    if c == '/' then (acc.reverse, some rest)
    else if c == '\\' then
      match rest with
      | d :: r => splitAtSlash fuel r (d :: c :: acc)
      | [] => (acc.reverse ++ [c], none)
    else if c == '\'' || c == '"' then
      let body := rest.takeWhile (· != c)
      splitAtSlash fuel (rest.drop (body.length + 1)) (if body.length < rest.length then c :: body.reverse ++ c :: acc else body.reverse ++ c :: acc)
    else splitAtSlash fuel rest (c :: acc)

/-- The text up to the first `:` outside parentheses, and the text after it. -/
def splitAtColon (cs : List Char) : List Char × Option (List Char) :=
  let rec go : Nat → List Char → List Char → List Char × Option (List Char)
    | _, [], acc => (acc.reverse, none)
    | depth, c :: rest, acc =>
      if c == ':' && depth == 0 then (acc.reverse, some rest)
      else if c == '(' then go (depth + 1) rest (c :: acc)
      else if c == ')' then go (depth - 1) rest (c :: acc)
      else go depth rest (c :: acc)
  go 0 cs []

/-- Reads the body of a `${...}` expansion in bash: besides the POSIX forms, the elements of
arrays (`name[subscript]`), indirection (`!name`), the names of variables (`!prefix*`), the
keys of an array (`!name[@]`), substrings (`:offset:length`), replacements (`/pattern/text`)
and changes of case (`^`, `^^`, `,`, `,,`). An indirect or listing name is kept with its `!`. -/
def bashBraceExpansion (body : List Char) : Option (String × ParamOp) :=
  let nameAt (cs : List Char) : Option (String × List Char) :=
    match braceName cs with
    | some (name, '[' :: rest) =>
      if isName name then
        (subscriptOf (rest.length + 1) 0 rest []).map fun (sub, after) => (name ++ "[" ++ sub ++ "]", after)
      else some (name, '[' :: rest)
    | r => r
  match body with
  | '#' :: rest =>
    if rest.isEmpty then some ("#", .value)
    else
      match nameAt rest with
      | some (name, []) => some (name, .length)
      | _ =>
        match rest with
        | c :: _ => if c == ':' || c == '-' || c == '=' || c == '+' || c == '?' || c == '%' || c == '#'
            then bashOperator "#" rest else none
        | [] => none
  | '!' :: rest =>
    match braceName rest with
    | some (name, ['*']) => if isName name then some ("!" ++ name ++ "*", .value) else none
    | some (name, ['@']) => if isName name then some ("!" ++ name ++ "@", .value) else none
    | _ =>
      match nameAt rest with
      | some (name, after) => bashOperator ("!" ++ name) after
      | none => if rest.isEmpty then some ("!", .value) else none
  | _ =>
    match nameAt body with
    | none => none
    | some (name, rest) => bashOperator name rest
where
  /-- The operator after the name of a `${...}` expansion in bash. -/
  bashOperator (name : String) (rest : List Char) : Option (String × ParamOp) :=
    let word (n : Nat) : String := String.ofList (rest.drop n)
    let caseOp (upper all : Bool) (n : Nat) : Option (String × ParamOp) :=
      some (name, .changeCase upper all (word n))
    match rest with
    | ':' :: c :: _ =>
      if c == '-' || c == '=' || c == '+' || c == '?' then braceExpansion.braceOperator name rest
      else
        match splitAtColon (rest.drop 1) with
        | (offset, some length) => some (name, .substring (String.ofList offset) (some (String.ofList length)))
        | (offset, none) => some (name, .substring (String.ofList offset) none)
    | [':'] => some (name, .substring "" none)
    | '/' :: more =>
      let (mode, pat) : ReplaceMode × List Char := match more with
        | '/' :: p => (.every, p)
        | '#' :: p => (.atStart, p)
        | '%' :: p => (.atEnd, p)
        | p => (.first, p)
      let (pattern, replacement) := splitAtSlash (pat.length + 1) pat []
      some (name, .replace mode (String.ofList pattern) (String.ofList (replacement.getD [])))
    | ['@', c] => some (name, .transform c)
    | '^' :: '^' :: _ => caseOp true true 2
    | '^' :: _ => caseOp true false 1
    | ',' :: ',' :: _ => caseOp false true 2
    | ',' :: _ => caseOp false false 1
    | _ => braceExpansion.braceOperator name rest

/-- Reads a `$` expansion after the `$`, on line `line`: the part and the text after it; a `$`
that starts none is text. -/
def dollarPart (bash : Bool) (quoted : Bool) (line : Nat) (cs : List Char) : Option (WordPart × List Char) :=
  match cs with
  | '(' :: rest =>
    match skipNest bash (rest.length + 1) .paren 0 rest with
    | .ok after =>
      let body := rest.take (rest.length - after.length - 1)
      match body with
      | '(' :: inner =>
        if inner.getLast? == some ')' then
          some (.arithmetic (String.ofList inner.dropLast) quoted, after)
        else some (.substitution (String.ofList body) line quoted, after)
      | _ => some (.substitution (String.ofList body) line quoted, after)
    | .error _ => none
  | '{' :: rest =>
    match skipNest bash (rest.length + 1) .brace 0 rest with
    | .ok after =>
      let body := rest.take (rest.length - after.length - 1)
      match (if bash then bashBraceExpansion body else braceExpansion body) with
      | some (name, op) => some (.param name op quoted, after)
      | none => some (.param "" (.malformed ("$\x7b" ++ String.ofList body ++ "\x7d")) quoted, after)
    | .error _ => none
  | c :: rest =>
    if isNameStart c then
      let name := cs.takeWhile isNameChar
      some (.param (String.ofList name) .value quoted, cs.drop name.length)
    else if isSpecialParam c then some (.param (String.singleton c) .value quoted, rest)
    else some (.text "$" quoted, cs)
  | [] => some (.text "$" quoted, [])

/-- Puts a character onto the text part at the end of `acc` (kept last first). -/
def pushChar (quoted : Bool) (c : Char) : List WordPart → List WordPart
  | .text s q :: acc =>
    if q == quoted then .text (s.push c) q :: acc
    else .text (String.singleton c) quoted :: .text s q :: acc
  | acc => .text (String.singleton c) quoted :: acc

/-- Reads the parts of double-quoted text on line `line` up to its closing quote: the parts
(last first) and the text after the quote. In a here-document (`here`) a quote is an ordinary
character and the text runs to its end. -/
def doubleParts (bash : Bool) (here : Bool) : Nat → Nat → List Char → List WordPart →
    Option (List WordPart × List Char)
  | 0, _, _, _ => none
  | _ + 1, _, [], acc => if here then some (acc, []) else none
  | fuel + 1, line, c :: rest, acc =>
    if c == '"' && !here then some (acc, rest)
    else if c == '\\' then
      match rest with
      | d :: r =>
        if d == '\n' then doubleParts bash here fuel (line + 1) r acc
        else if d == '$' || d == backquote || d == '\\' || (d == '"' && !here) then
          doubleParts bash here fuel line r (pushChar true d acc)
        else doubleParts bash here fuel line r (pushChar true d (pushChar true '\\' acc))
      | [] => if here then some (pushChar true '\\' acc, []) else none
    else if c == '$' then
      match dollarPart bash true line rest with
      | some (.text t q, r) => doubleParts bash here fuel line r (pushChar q t.front acc)
      | some (p, r) => doubleParts bash here fuel (line + breaks (rest.take (rest.length - r.length))) r (p :: acc)
      | none => none
    else if c == backquote then
      match skipNest bash (rest.length + 1) .back 0 rest with
      | .ok after =>
        let raw := rest.take (rest.length - after.length - 1)
        let body := unescapeBackquoted true raw
        doubleParts bash here fuel (line + breaks raw) after
          (.substitution (String.ofList body) line true :: acc)
      | .error _ => none
    else doubleParts bash here fuel (if c == '\n' then line + 1 else line) rest (pushChar true c acc)

/-- Gives the malformed expansions among parts, quoted or not as `quoted` says, the source
text bash shows for them: the word, or the text in the double quotes around them. -/
def nameMalformed (text : String) (quoted : Bool) (parts : List WordPart) : List WordPart :=
  parts.map fun p =>
    match p with
    | .param n (.malformed _) q => if q == quoted then .param n (.malformed text) q else p
    | p => p

/-- Reads the parts of an unquoted word on line `line` (last first). -/
def wordPartsFrom (bash : Bool) : Nat → Nat → List Char → List WordPart → Option (List WordPart)
  | 0, _, _, _ => none
  | _ + 1, _, [], acc => some acc
  | fuel + 1, line, c :: rest, acc =>
    if c == '\\' then
      match rest with
      | '\n' :: r => wordPartsFrom bash fuel (line + 1) r acc
      | d :: r => wordPartsFrom bash fuel line r (pushChar true d acc)
      | [] => wordPartsFrom bash fuel line [] (pushChar false '\\' acc)
    else if bash && c == '$' && rest.head? == some '\'' then
      match ansiQuoted (rest.length + 1) (rest.drop 1) "" with
      | some (text, r) =>
        let acc := match acc with
          | .text s true :: acc' => .text (s ++ text) true :: acc'
          | acc => .text text true :: acc
        wordPartsFrom bash fuel (line + breaks (rest.take (rest.length - r.length))) r acc
      | none => none
    else if bash && c == '$' && rest.head? == some '"' then
      wordPartsFrom bash fuel line rest acc
    else if c == '\'' then
      let body := rest.takeWhile (· != '\'')
      let acc := match acc with
        | .text s true :: acc' => .text (s ++ String.ofList body) true :: acc'
        | acc => .text (String.ofList body) true :: acc
      wordPartsFrom bash fuel (line + breaks body) (rest.drop (body.length + 1)) acc
    else if c == '"' then
      match doubleParts bash false (rest.length + 1) line rest [] with
      | some (parts, r) =>
        -- an empty pair of quotes still makes a field
        let parts := if parts.isEmpty then [.text "" true] else parts
        let parts := nameMalformed (String.ofList (rest.take (rest.length - r.length - 1))) true parts
        wordPartsFrom bash fuel (line + breaks (rest.take (rest.length - r.length))) r (parts ++ acc)
      | none => none
    else if c == '$' then
      match dollarPart bash false line rest with
      | some (.text t q, r) => wordPartsFrom bash fuel line r (pushChar q t.front acc)
      | some (p, r) =>
        wordPartsFrom bash fuel (line + breaks (rest.take (rest.length - r.length))) r (p :: acc)
      | none => none
    else if c == backquote then
      match skipNest bash (rest.length + 1) .back 0 rest with
      | .ok after =>
        let raw := rest.take (rest.length - after.length - 1)
        let body := unescapeBackquoted false raw
        wordPartsFrom bash fuel (line + breaks raw) after
          (.substitution (String.ofList body) line false :: acc)
      | .error _ => none
    else wordPartsFrom bash fuel (if c == '\n' then line + 1 else line) rest (pushChar false c acc)

/-- The parts of a word's source text on line `line`, or `none` when an expansion in it is
malformed. -/
def wordParts (dialect : Dialect) (raw : String) (line : Nat) : Option Word :=
  (wordPartsFrom (dialect == .bash) (raw.length + 1) line raw.toList []).map fun parts =>
    nameMalformed raw false parts.reverse

/-- The parts of text read as if it were in double quotes, as the word of a `${...}` operator
inside double quotes is. -/
def quotedParts (dialect : Dialect) (raw : String) (line : Nat) : Option Word :=
  (doubleParts (dialect == .bash) false (raw.length + 2) line (raw.toList ++ ['"']) []).map
    fun (parts, _) => parts.reverse

/-- The parts of the body of a here-document whose delimiter was not quoted, starting on line
`line`. -/
def hereParts (dialect : Dialect) (body : String) (line : Nat) : Option Word :=
  (doubleParts (dialect == .bash) true (body.length + 2) line body.toList []).map
    fun (parts, _) => nameMalformed body true parts.reverse

end Regress.Shell
