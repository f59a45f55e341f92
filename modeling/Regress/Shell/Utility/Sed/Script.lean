import Regress.Text.Regex

/-!
# sed scripts

The commands of a `sed` script and how a script is read.

A command is an optional address or range of addresses, an optional `!`, and a letter with
its arguments. Commands are parted by newlines or `;`, and `{` … `}` groups them under one
address. Addresses are line numbers, `$` for the last line, `/re/` (or `\cREc`) for the lines
a regular expression matches, `first~step`, and `0,/re/`; the end of a range may also be
`+N` (that many lines more) or `~N` (up to a multiple of `N`).

A script that cannot be read is reported with how many of its characters were read when the
fault was found, as `sed` counts them: the character at fault is counted, and a line break that
ends an unterminated expression is not.
-/

namespace Regress.Shell

/-- An address of a sed command. `pattern none` is the empty regular expression, which stands
for the last one used. -/
inductive SedAddress where
  | line (n : Nat)
  | last
  | pattern (r : Option Regex)
  | step (first every : Nat)
  | zero
  deriving Inhabited

/-- Where a range of lines ends: at an address, `n` lines after its first line, or at the next
line whose number is a multiple of `n`. -/
inductive RangeEnd where
  | address (a : SedAddress)
  | following (n : Nat)
  | multiple (n : Nat)
  deriving Inhabited

/-- A piece of the replacement of a substitution: text, what a group matched (0 for the whole
match), or a change of case (`L`, `U`, `E`, `l` or `u`). -/
inductive ReplacementPart where
  | text (s : String)
  | group (n : Nat)
  | caseShift (c : Char)
  deriving Repr, Inhabited

/-- A substitution: what it replaces, with what, and its flags. `occurrence` is the first
match replaced (1 unless a number is given). -/
structure Substitution where
  regex : Option Regex
  replacement : List ReplacementPart
  global : Bool
  occurrence : Nat
  print : Bool
  write : Option String
  deriving Inhabited

/-- When a branch jumps: always, after a substitution, or when there was none. -/
inductive BranchKind where
  | always
  | substituted
  | notSubstituted
  deriving Repr, DecidableEq, Inhabited

/-- What a sed command does. -/
inductive SedOp where
  | blockStart
  | blockEnd
  | print
  | printFirst
  | delete
  | deleteFirst
  | next
  | appendNext
  | hold
  | holdAppend
  | fetch
  | fetchAppend
  | exchange
  | lineNumber
  | append (text : String)
  | insert (text : String)
  | change (text : String)
  | quit (code : Nat) (silent : Bool)
  | substitute (s : Substitution)
  | transliterate (pairs : List (Char × Char))
  | branch (kind : BranchKind) (target : Option String)
  | label (name : String)
  | readFile (name : String)
  | readLine (name : String)
  | writeFile (name : String) (firstLine : Bool)
  | zap
  | fileName
  | list (width : Option Nat)
  | nothing
  deriving Inhabited

/-- A command with the lines it applies to. -/
structure SedCommand where
  first : Option SedAddress
  last : Option RangeEnd
  negated : Bool
  op : SedOp
  deriving Inhabited

/-- A fault in a script: its message and what of the script was left unread when it was
found, or `none` when it was found after the whole script. -/
structure ScriptFault where
  message : String
  rest : Option (List Char)
  deriving Inhabited

/-- The result of reading part of a script: a value and what is left, or a fault. -/
abbrev ScriptRead (α : Type) := Except ScriptFault (α × List Char)

/-- A fault found with `rest` left to read. -/
def fault {α : Type} (message : String) (rest : List Char) : Except ScriptFault α :=
  .error { message, rest := some rest }

/-- Whether a character is a blank inside a line of a script. -/
def isScriptBlank (c : Char) : Bool :=
  c == ' ' || c == '\t'

/-- A script without its leading blanks. -/
def skipScriptBlanks (cs : List Char) : List Char :=
  cs.dropWhile isScriptBlank

/-- Reads text up to an unescaped delimiter: the text and what follows the delimiter, or
`none` with what is left when the text ends first (a line break that ends it is left unread).
A backslash before the delimiter or a line break is dropped; in a regular expression `\n`
stands for a line break; every other backslash is kept with its character. -/
def readDelimited (delim : Char) (regex : Bool) : List Char → List Char →
    Option (List Char × List Char) × List Char
  | [], _ => (none, [])
  | c :: rest, acc =>
    if c == '\n' then (none, c :: rest)
    else if c == delim then (some (acc.reverse, rest), rest)
    else if c == '\\' then
      match rest with
      | [] => (none, [])
      | d :: more =>
        if d == 'n' && regex then readDelimited delim regex more ('\n' :: acc)
        else if d == '\n' then readDelimited delim regex more ('\n' :: acc)
        else if d == delim && (regex || d != '&') then readDelimited delim regex more (d :: acc)
        else readDelimited delim regex more (d :: '\\' :: acc)
    else readDelimited delim regex rest (c :: acc)

/-- The value of octal, decimal or hexadecimal digits at the front, at most `most` of them. -/
def readRadix (radix most : Nat) (cs : List Char) : Option (Nat × List Char) :=
  let digit (c : Char) : Option Nat :=
    if c.isDigit && c.toNat - 48 < radix then some (c.toNat - 48)
    else if radix == 16 && 'a' ≤ c && c ≤ 'f' then some (c.toNat - 87)
    else if radix == 16 && 'A' ≤ c && c ≤ 'F' then some (c.toNat - 55)
    else none
  let ds := (cs.take most).takeWhile fun c => (digit c).isSome
  if ds.isEmpty then none
  else some (ds.foldl (fun n c => n * radix + (digit c).getD 0) 0, cs.drop ds.length)

/-- Replaces the escapes that stand for single characters: `\a`, `\f`, `\n`, `\r`, `\t`, `\v`,
`\cX`, `\dNNN`, `\oNNN` and `\xHH`. Other backslashes are kept with their characters, unless
`dropOthers`, which keeps only the character. -/
def expandEscapes (dropOthers : Bool) (cs : List Char) : List Char :=
  go (cs.length + 1) cs
where
  /-- The escapes of `cs` replaced, within `fuel` steps. -/
  go : Nat → List Char → List Char
    | 0, cs => cs
    | _ + 1, [] => []
    | fuel + 1, '\\' :: c :: rest =>
      let simple : Option Char :=
        if c == 'a' then some '\x07' else if c == 'f' then some '\x0c'
        else if c == 'n' then some '\n' else if c == 'r' then some '\r'
        else if c == 't' then some '\t' else if c == 'v' then some '\x0b' else none
      match simple with
      | some x => x :: go fuel rest
      | none =>
        let numeric := if c == 'd' then readRadix 10 3 rest else if c == 'o' then readRadix 8 3 rest
          else if c == 'x' then readRadix 16 2 rest else none
        match numeric with
        | some (n, more) => Char.ofNat n :: go fuel more
        | none =>
          match c, rest with
          | 'c', x :: more => Char.ofNat ((x.toUpper.toNat) ^^^ 64) :: go fuel more
          | _, _ => if dropOthers then c :: go fuel rest else '\\' :: c :: go fuel rest
    | fuel + 1, c :: rest => c :: go fuel rest

/-- Reads the pieces of a replacement. -/
def replacementParts : List Char → List ReplacementPart
  | [] => []
  | '\\' :: c :: rest =>
    if c.isDigit then .group (c.toNat - 48) :: replacementParts rest
    else if c == 'L' || c == 'U' || c == 'E' || c == 'l' || c == 'u' then .caseShift c :: replacementParts rest
    else if c == 'n' then .text "\n" :: replacementParts rest
    else .text (String.singleton c) :: replacementParts rest
  | '&' :: rest => .group 0 :: replacementParts rest
  | c :: rest => .text (String.singleton c) :: replacementParts rest

/-- The highest group a replacement refers to. -/
def highestGroup (ps : List ReplacementPart) : Nat :=
  ps.foldl (fun m p => match p with
    | .group n => max m n
    | _ => m) 0

/-- Compiles the text of a regular expression; empty text is the last one used. -/
def compileSedRegex (syn : RegexSyntax) (icase : Bool) (text : List Char) (rest : List Char) :
    Except ScriptFault (Option Regex) :=
  if text.isEmpty then .ok none
  else
    match Regex.parseWith syn (String.ofList (expandEscapes false text)) with
    | .ok r => .ok (some (if icase then r.ignoringCase else r))
    | .error m => fault m rest

/-- Reads the flags after an address's regular expression: whether it ignores case. -/
def addressFlags : List Char → Bool → Bool × List Char
  | 'I' :: rest, _ => addressFlags rest true
  | 'M' :: rest, icase => addressFlags rest icase
  | rest, icase => (icase, rest)

/-- Reads a run of decimal digits. -/
def readDecimal (cs : List Char) : Option (Nat × List Char) :=
  let ds := cs.takeWhile Char.isDigit
  if ds.isEmpty then none
  else some (ds.foldl (fun n c => n * 10 + (c.toNat - 48)) 0, cs.drop ds.length)

/-- Reads an address: `none` when the script does not start with one, and then nothing is
read. -/
def readAddress (syn : RegexSyntax) (cs : List Char) : ScriptRead (Option SedAddress) :=
  let regexAddress (delim : Char) (body : List Char) : ScriptRead (Option SedAddress) :=
    match readDelimited delim true body [] with
    | (none, rest) => fault "unterminated address regex" rest
    | (some (text, _), after) =>
      let (icase, rest) := addressFlags after false
      (compileSedRegex syn icase text rest).map fun r => (some (.pattern r), rest)
  match cs with
  | '/' :: rest => regexAddress '/' rest
  | '\\' :: d :: rest => regexAddress d rest
  | '$' :: rest => .ok (some .last, rest)
  | _ =>
    match readDecimal cs with
    | some (n, rest) =>
      match rest with
      | '~' :: more =>
        match readDecimal more with
        | some (k, rest') => .ok (some (.step n k), rest')
        | none => .ok (some (.step n 0), more)
      | _ => .ok (some (if n == 0 then .zero else .line n), rest)
    | none => .ok (none, cs)

/-- Reads the end of a range after its comma. -/
def readRangeEnd (syn : RegexSyntax) (cs : List Char) : ScriptRead (Option RangeEnd) :=
  match cs with
  | '+' :: rest =>
    match readDecimal rest with
    | some (n, more) => .ok (some (.following n), more)
    | none => .ok (none, rest)
  | '~' :: rest =>
    match readDecimal rest with
    | some (n, more) => .ok (some (.multiple n), more)
    | none => .ok (none, rest)
  | _ => (readAddress syn cs).map fun (a, rest) => (a.map .address, rest)

/-- Checks the end of a command: blanks, then the end of the script, a line break, `;`, or a
`}` or `#` that is left to read. -/
def endOfCommand (cs : List Char) : Except ScriptFault (List Char) :=
  match skipScriptBlanks cs with
  | [] => .ok []
  | '\n' :: rest => .ok rest
  | ';' :: rest => .ok rest
  | '}' :: rest => .ok ('}' :: rest)
  | '#' :: rest => .ok ('#' :: rest)
  | _ :: rest => fault "extra characters after command" rest

/-- Reads a label: blanks, then everything up to a blank, `;` or the end of the line. -/
def readLabel (cs : List Char) : String × List Char :=
  let cs := skipScriptBlanks cs
  let name := cs.takeWhile fun c => !(isScriptBlank c || c == ';' || c == '\n')
  (String.ofList name, cs.drop name.length)

/-- Reads a file name: blanks, then the rest of the line. -/
def readFileName (cs : List Char) : String × List Char :=
  let cs := skipScriptBlanks cs
  let name := cs.takeWhile (· != '\n')
  (String.ofList name, (cs.drop name.length).drop 1)

/-- Reads the text of `a`, `i` or `c` after its letter. A backslash keeps the next character,
and before a line break continues the text on the next line; the text ends at a line break. A
backslash that ends the script leaves the text empty. -/
def readText (cs : List Char) : Except ScriptFault (String × List Char) :=
  let rec body : List Char → List Char → List Char × List Char
    | [], acc => (acc.reverse, [])
    | '\n' :: rest, acc => (acc.reverse, rest)
    | '\\' :: c :: rest, acc => body rest (c :: '\\' :: acc)
    | ['\\'], acc => (acc.reverse, [])
    | c :: rest, acc => body rest (c :: acc)
  match skipScriptBlanks cs with
  | [] => fault "expected \\ after \x60a\x27, \x60c\x27 or \x60i\x27" []
  | ['\\'] => .ok ("", [])
  | '\\' :: rest =>
    let rest := match rest with
      | '\n' :: more => more
      | more => more
    let (text, after) := body rest []
    .ok (String.ofList (expandEscapes true text) ++ "\n", after)
  | rest =>
    let (text, after) := body rest []
    .ok (String.ofList (expandEscapes true text) ++ "\n", after)

/-- Reads the flags of a substitution after its replacement. -/
def substitutionFlags : Nat → List Char → Substitution → Bool →
    Except ScriptFault (Substitution × Bool × List Char)
  | 0, cs, s, icase => .ok (s, icase, cs)
  | fuel + 1, cs, s, icase =>
    match cs with
    | [] => .ok (s, icase, [])
    | c :: rest =>
      if c == 'i' || c == 'I' then substitutionFlags fuel rest s true
      else if c == 'm' || c == 'M' || c == 'e' then substitutionFlags fuel rest s icase
      else if c == 'p' then
        if s.print then fault "multiple \x60p\x27 options to \x60s\x27 command" rest
        else substitutionFlags fuel rest { s with print := true } icase
      else if c == 'g' then
        if s.global then fault "multiple \x60g\x27 options to \x60s\x27 command" rest
        else substitutionFlags fuel rest { s with global := true } icase
      else if c == 'w' then
        let (name, after) := readFileName rest
        if name.isEmpty then fault "missing filename in r/R/w/W commands" after
        else .ok ({ s with write := some name }, icase, after)
      else if c.isDigit then
        match readDecimal cs with
        | some (n, more) =>
          if s.occurrence != 0 then fault "multiple number options to \x60s\x27 command" more
          else if n == 0 then fault "number option to \x60s\x27 command may not be zero" more
          else substitutionFlags fuel more { s with occurrence := n } icase
        | none => .ok (s, icase, cs)
      else if c == '}' || c == '#' then .ok (s, icase, cs)
      else if c == '\n' || c == ';' then .ok (s, icase, rest)
      else fault "unknown option to \x60s\x27" rest

/-- Reads a substitution after its `s`. -/
def readSubstitution (syn : RegexSyntax) (cs : List Char) : ScriptRead SedOp :=
  match cs with
  | [] => fault "unterminated \x60s\x27 command" []
  | delim :: rest =>
    match readDelimited delim true rest [] with
    | (none, left) => fault "unterminated \x60s\x27 command" left
    | (some (pattern, _), afterPattern) =>
      match readDelimited delim false afterPattern [] with
      | (none, left) => fault "unterminated \x60s\x27 command" left
      | (some (repl, _), afterRepl) =>
        let result : Except ScriptFault (SedOp × List Char) := do
          let base : Substitution :=
            { regex := none, replacement := [], global := false, occurrence := 0, print := false,
              write := none }
          let (s, icase, rest) ← substitutionFlags (afterRepl.length + 1) afterRepl base false
          let regex ← compileSedRegex syn icase pattern rest
          let parts := replacementParts (expandEscapes false repl)
          let groups := regex.map Regex.groupCount
          let top := highestGroup parts
          if groups.any (top > ·) then
            fault ("invalid reference \\" ++ toString top ++ " on \x60s\x27 command\x27s RHS") rest
          else
            let occurrence := if s.occurrence == 0 then 1 else s.occurrence
            .ok (.substitute { s with regex := regex, replacement := parts, occurrence := occurrence }, rest)
        result

/-- The characters of one side of a transliteration, with `\\` and `\n` read. -/
def transliterationSide : List Char → List Char
  | '\\' :: '\\' :: rest => '\\' :: transliterationSide rest
  | '\\' :: 'n' :: rest => '\n' :: transliterationSide rest
  | c :: rest => c :: transliterationSide rest
  | [] => []

/-- Reads a transliteration after its `y`. -/
def readTransliteration (cs : List Char) : ScriptRead SedOp :=
  match cs with
  | [] => fault "unterminated \x60y\x27 command" []
  | delim :: rest =>
    match readDelimited delim false rest [] with
    | (none, left) => fault "unterminated \x60y\x27 command" left
    | (some (src, _), afterSrc) =>
      match readDelimited delim false afterSrc [] with
      | (none, left) => fault "unterminated \x60y\x27 command" left
      | (some (dst, _), afterDst) =>
        let a := transliterationSide src
        let b := transliterationSide dst
        if a.length != b.length then
          fault "strings for \x60y\x27 command are different lengths" afterDst
        else (endOfCommand afterDst).map fun rest => (.transliterate (a.zip b), rest)

/-- Reads an optional number argument and the end of the command. -/
def numberArgument (cs : List Char) : Except ScriptFault (Option Nat × List Char) :=
  let cs := skipScriptBlanks cs
  match readDecimal cs with
  | some (n, rest) => (endOfCommand rest).map (some n, ·)
  | none => (endOfCommand cs).map (none, ·)

/-- Reads what follows a command's letter: the operation and the rest. `ranged` tells whether
the command has two addresses, `addressed` whether it has any. -/
def readOperation (syn : RegexSyntax) (letter : Char) (addressed ranged : Bool) (cs : List Char) :
    ScriptRead SedOp :=
  let simple (op : SedOp) : ScriptRead SedOp := (endOfCommand cs).map (op, ·)
  match letter with
  | '{' => .ok (.blockStart, cs)
  | '}' => simple .blockEnd
  | '=' => simple .lineNumber
  | 'd' => simple .delete
  | 'D' => simple .deleteFirst
  | 'g' => simple .fetch
  | 'G' => simple .fetchAppend
  | 'h' => simple .hold
  | 'H' => simple .holdAppend
  | 'n' => simple .next
  | 'N' => simple .appendNext
  | 'p' => simple .print
  | 'P' => simple .printFirst
  | 'x' => simple .exchange
  | 'z' => simple .zap
  | 'F' => simple .fileName
  | 'a' => (readText cs).map fun (t, rest) => (.append t, rest)
  | 'i' => (readText cs).map fun (t, rest) => (.insert t, rest)
  | 'c' => (readText cs).map fun (t, rest) => (.change t, rest)
  | ':' =>
    if addressed then fault ": doesn\x27t want any addresses" cs
    else
      let (name, rest) := readLabel cs
      if name.isEmpty then fault "\":\" lacks a label" rest else .ok (.label name, rest)
  | 'b' | 't' | 'T' =>
    let (name, rest) := readLabel cs
    let kind := if letter == 'b' then BranchKind.always else if letter == 't' then .substituted
      else .notSubstituted
    .ok (.branch kind (if name.isEmpty then none else some name), rest)
  | 'r' | 'R' | 'w' | 'W' =>
    let (name, rest) := readFileName cs
    if name.isEmpty then fault "missing filename in r/R/w/W commands" rest
    else
      .ok (if letter == 'r' then .readFile name else if letter == 'R' then .readLine name
        else .writeFile name (letter == 'W'), rest)
  | 'q' | 'Q' =>
    if ranged then fault "command only uses one address" cs
    else (numberArgument cs).map fun (n, rest) => (.quit (n.getD 0) (letter == 'Q'), rest)
  | 'l' => (numberArgument cs).map fun (n, rest) => (.list n, rest)
  | 'L' => (numberArgument cs).map fun (_, rest) => (.nothing, rest)
  | 's' => readSubstitution syn cs
  | 'y' => readTransliteration cs
  | 'e' =>
    let (_, rest) := readFileName cs
    .ok (.nothing, rest)
  | 'v' =>
    let (_, rest) := readLabel cs
    .ok (.nothing, rest)
  | c => fault ("unknown command: \x60" ++ String.singleton c ++ "\x27") cs

/-- Reads the commands of one piece of a script, after those already read; `depth` counts the
blocks left open. -/
def readCommands (syn : RegexSyntax) : Nat → List Char → Array SedCommand → Nat →
    Except ScriptFault (Array SedCommand × Nat)
  | 0, _, acc, depth => .ok (acc, depth)
  | fuel + 1, cs, acc, depth =>
    match cs.dropWhile fun c => isScriptBlank c || c == '\n' || c == ';' with
    | [] => .ok (acc, depth)
    | '#' :: rest => readCommands syn fuel (rest.dropWhile (· != '\n')) acc depth
    | cs => do
      let (first, rest) ← readAddress syn cs
      let (last, rest) ← match first with
        | none => pure (none, rest)
        | some _ =>
          match skipScriptBlanks rest with
          | ',' :: more =>
            match skipScriptBlanks more with
            | [] => fault "unexpected \x60,\x27" []
            | afterComma => do
              let (e, after) ← readRangeEnd syn afterComma
              match e with
              | some e => pure (some e, after)
              | none => fault "unexpected \x60,\x27" (afterComma.drop 1)
          | more => pure (none, more)
      let zeroOk := match first, last with
        | some .zero, some (.address (.pattern _)) => true
        | some .zero, _ => false
        | _, _ => true
      if !zeroOk then fault "invalid usage of line address 0" rest
      else
        let (negated, rest) := match skipScriptBlanks rest with
          | '!' :: more => (true, skipScriptBlanks more)
          | more => (false, more)
        match rest with
        | [] => fault "missing command" []
        | '!' :: more => fault "multiple \x60!\x27s" more
        | '#' :: more =>
          if first.isSome then fault "comments don\x27t accept any addresses" more
          else readCommands syn fuel (more.dropWhile (· != '\n')) acc depth
        | letter :: more =>
          if letter == '}' && depth == 0 then fault "unexpected \x60\x7d\x27" more
          else if letter == '}' && first.isSome then fault "\x60\x7d\x27 doesn\x27t want any addresses" more
          else do
            let (op, rest) ← readOperation syn letter first.isSome last.isSome more
            let depth := if letter == '{' then depth + 1 else if letter == '}' then depth - 1 else depth
            readCommands syn fuel rest (acc.push { first, last, negated, op }) depth

/-- The labels that the branches of a program jump to but that it does not define. -/
def missingLabels (prog : Array SedCommand) : List String :=
  let defined := prog.toList.filterMap fun c => match c.op with
    | .label n => some n
    | _ => none
  prog.toList.filterMap fun c => match c.op with
    | .branch _ (some n) => if defined.contains n then none else some n
    | _ => none

/-- Where each block of a program ends: for each `{`, the place of its `}`. -/
def blockEnds (prog : Array SedCommand) : Array Nat :=
  let (ends, _) := prog.toList.zipIdx.foldl (fun (acc : Array Nat × List Nat) (c, i) =>
    let (ends, open_) := acc
    match c.op with
    | .blockStart => (ends, i :: open_)
    | .blockEnd =>
      match open_ with
      | j :: more => (ends.set! j i, more)
      | [] => (ends, open_)
    | _ => (ends, open_)) (Array.replicate prog.size prog.size, [])
  ends

end Regress.Shell
