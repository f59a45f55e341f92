import Regress.Shell.Awk.Syntax
import Regress.Shell.Awk.Number
import Regress.Shell.Awk.Regexp

/-!
# The tokens of awk programs

Reading a program starts by cutting its text into tokens: numbers, strings, regular
expressions, names, keywords, operators and line breaks. Blanks, comments and a backslash at
the end of a line go.

* A slash starts a regular expression unless it follows something that ends an operand (a
  number, a string, a name, a closing bracket, `++`, `--` or `getline`), where it divides.
* A name directly followed by `(` calls a function. The names of awk's functions and its
  keywords are their own tokens.
* In a string, a backslash before `"`, a backslash, one of `abfnrtv`, up to three octal
  digits or `x` and hexadecimal digits stands for that character; before a line break it joins
  the lines; before anything else it stays. In a regular expression only `\/` is undone here,
  a slash inside a set does not end it, and one that does not compile stops the reading.
* A string or regular expression that meets the end of its line is a runaway, reported with
  the first ten characters after its opening.
-/

namespace Regress.Awk

/-- What a token is. -/
inductive Tok where
  | number (x : Float)
  | text (s : String)
  | regex (source : String)
  | name (s : String)
  | funcName (s : String)
  | builtin (f : Builtin)
  | keyword (k : String)
  | op (s : String)
  | newline
  | eof
  deriving Inhabited

/-- A token, the line it is on, and its text as written, which messages quote. -/
structure Token where
  tok : Tok
  line : Nat
  source : String
  deriving Inhabited

/-- An error found reading a program: its line, its text, whether its line is written without
the word `line`, and a second message reported at the same line. -/
structure ProgramError where
  line : Nat
  message : String
  bare : Bool := false
  also : Option String := none
  deriving Inhabited

/-- The keywords of awk. -/
def keywords : List String :=
  ["BEGIN", "END", "function", "if", "else", "while", "for", "do", "break", "continue", "next",
   "nextfile", "exit", "return", "delete", "in", "getline", "print", "printf"]

/-- The operators and punctuation of awk, the longer before their prefixes. -/
def operators : List String :=
  ["&&", "||", "==", "<=", ">=", "!=", "!~", "++", "--", "+=", "-=", "*=", "/=", "%=", "^=", ">>",
   "\x7b", "\x7d", "(", ")", "[", "]", ";", ",", "+", "-", "*", "/", "%", "^", "!", ">", "<", "|", "?",
   ":", "~", "$", "="]

/-- Whether a token ends an operand, so that a slash after it divides. -/
def Tok.endsOperand : Tok → Bool
  | .number _ | .text _ | .regex _ | .name _ | .funcName _ => true
  | .op o => o == ")" || o == "]" || o == "++" || o == "--"
  | .keyword k => k == "getline"
  | _ => false

/-- Reads the rest of a string after its opening quote: its text, the rest after the closing
quote and the lines joined; `none` for a runaway string. -/
def readString : Nat → List Char → String → Nat → Option (String × List Char × Nat)
  | 0, _, _, _ => none
  | _ + 1, [], _, _ => none
  | fuel + 1, c :: rest, acc, lines =>
    if c == '"' then some (acc, rest, lines)
    else if c == '\n' then none
    else if c == '\\' then
      match rest with
      | [] => none
      | '\n' :: more => readString fuel more acc (lines + 1)
      | d :: more =>
        match controlEscape d with
        | some e => readString fuel more (acc.push e) lines
        | none =>
          if d.isDigit && d.toNat < '8'.toNat then
            let (v, _, after) := readDigits 8 3 (d :: more)
            readString fuel after (acc.push (Char.ofNat (v % 256))) lines
          else if d == 'x' then
            let (v, n, after) := readDigits 16 2 more
            if n == 0 then readString fuel more (acc ++ "\\x") lines
            else readString fuel after (acc.push (Char.ofNat v)) lines
          else readString fuel more ((acc.push '\\').push d) lines
    else readString fuel rest (acc.push c) lines

/-- Reads the text of a set inside a regular expression, up to and with its `]`, onto `acc`:
a `^` or `]` first and the classes `[:name:]` are part of it. -/
def readSetText : Nat → List Char → Bool → String → Option (String × List Char)
  | 0, _, _, _ => none
  | _ + 1, [], _, _ => none
  | fuel + 1, c :: rest, first, acc =>
    if c == '\n' then none
    else if first && c == '^' then
      match rest with
      | ']' :: more => readSetText fuel more false ((acc.push c).push ']')
      | _ => readSetText fuel rest false (acc.push c)
    else if first && c == ']' then readSetText fuel rest false (acc.push c)
    else if c == ']' then some (acc.push c, rest)
    else if c == '[' && rest.head? == some ':' then
      let name := (rest.drop 1).takeWhile fun d => d != ':' && d != '\n'
      match (rest.drop 1).drop name.length with
      | ':' :: ']' :: more => readSetText fuel more false (acc ++ "[:" ++ String.ofList name ++ ":]")
      | _ => readSetText fuel rest false (acc.push c)
    else if c == '\\' then
      match rest with
      | '/' :: more => readSetText fuel more false (acc.push '/')
      | '\n' :: _ => none
      | d :: more => readSetText fuel more false ((acc.push c).push d)
      | [] => none
    else readSetText fuel rest false (acc.push c)

/-- Reads the rest of a regular expression after its opening slash: its source, with `\/`
made a slash, and the rest after the closing slash; `none` for a runaway. Inside a set a slash
does not close the expression. -/
def readRegex : Nat → List Char → String → Option (String × List Char)
  | 0, _, _ => none
  | _ + 1, [], _ => none
  | fuel + 1, c :: rest, acc =>
    if c == '/' then some (acc, rest)
    else if c == '\n' then none
    else if c == '\\' then
      match rest with
      | '/' :: more => readRegex fuel more (acc.push '/')
      | '\n' :: _ => none
      | d :: more => readRegex fuel more ((acc.push '\\').push d)
      | [] => none
    else if c == '[' then
      match readSetText (rest.length + 1) rest true (acc.push '[') with
      | some (acc, after) => readRegex fuel after acc
      | none => none
    else readRegex fuel rest (acc.push c)

/-- The first ten characters of a line, as a runaway's message quotes them. -/
def runawayText (cs : List Char) : String :=
  String.ofList ((cs.takeWhile (· != '\n')).take 10) ++ " ..."

/-- Reads a number: its digits, a point and more digits, and an exponent with digits. -/
def numberDigits (cs : List Char) : List Char :=
  let whole := cs.takeWhile Char.isDigit
  let rest := cs.drop whole.length
  let frac := match rest with
    | '.' :: more => '.' :: more.takeWhile Char.isDigit
    | _ => []
  let rest := rest.drop frac.length
  let expo := match rest with
    | e :: more =>
      if e == 'e' || e == 'E' then
        let (sign, digits) := match more with
          | '+' :: r => (['+'], r)
          | '-' :: r => (['-'], r)
          | r => ([], r)
        let ds := digits.takeWhile Char.isDigit
        if ds.isEmpty then [] else e :: sign ++ ds
      else []
    | [] => []
  whole ++ frac ++ expo

/-- The token of a word: a keyword, a function of awk, a call when `(` follows at once, or a
name. -/
def wordToken (word : String) (callFollows : Bool) : Tok :=
  if keywords.contains word then .keyword word
  else match Builtin.all.find? (·.name == word) with
    | some f => .builtin f
    | none => if callFollows then .funcName word else .name word

/-- Cuts a program's text into tokens from line `line`, onto the tokens read so far, ending
with the end-of-text token (counted a line past the last); or the error that stopped the
reading. -/
def lexFrom : Nat → Nat → List Char → Array Token → Except ProgramError (Array Token)
  | 0, line, _, acc => .ok (acc.push ⟨.eof, line, ""⟩)
  | _ + 1, line, [], acc => .ok (acc.push ⟨.eof, line + 1, ""⟩)
  | fuel + 1, line, c :: rest, acc =>
    let afterOperand := match acc.back? with
      | some t => t.tok.endsOperand
      | none => false
    if c == ' ' || c == '\t' || c == '\r' then lexFrom fuel line rest acc
    else if c == '\\' && rest.head? == some '\n' then lexFrom fuel (line + 1) (rest.drop 1) acc
    else if c == '#' then lexFrom fuel line (rest.dropWhile (· != '\n')) acc
    else if c == '\n' then lexFrom fuel (line + 1) rest (acc.push ⟨.newline, line, "\n"⟩)
    else if c == '"' then
      match readString (rest.length + 1) rest "" 0 with
      | some (s, after, lines) =>
        let source := String.ofList (c :: rest.take (rest.length - after.length))
        lexFrom fuel (line + lines) after (acc.push ⟨.text s, line, source⟩)
      | none => .error ⟨line, "runaway string constant \"" ++ runawayText rest, false, none⟩
    else if c == '/' && !afterOperand then
      match readRegex (rest.length + 1) rest "" with
      | some (s, after) =>
        match compileRegex s with
        | .ok _ => lexFrom fuel line after (acc.push ⟨.regex s, line, "/" ++ s ++ "/"⟩)
        | .error e => .error ⟨line, "regular expression compile failed (" ++ e ++ ")\n" ++ s, false, none⟩
      | none => .error ⟨line, "runaway regular expression /" ++ runawayText rest, false, none⟩
    else if c.isDigit || (c == '.' && (rest.head?.map Char.isDigit).getD false) then
      let digits := numberDigits (c :: rest)
      let x := ((scanNumber digits).map (·.1)).getD 0
      lexFrom fuel line ((c :: rest).drop digits.length) (acc.push ⟨.number x, line, String.ofList digits⟩)
    else if c.isAlpha || c == '_' then
      let word := c :: rest.takeWhile (fun d => d.isAlphanum || d == '_')
      let after := (c :: rest).drop word.length
      let text := String.ofList word
      lexFrom fuel line after (acc.push ⟨wordToken text (after.head? == some '('), line, text⟩)
    else
      let cs := c :: rest
      match operators.find? fun o => cs.take o.length == o.toList with
      | some o => lexFrom fuel line (cs.drop o.length) (acc.push ⟨.op o, line, o⟩)
      | none => .error ⟨line, "unexpected character \x27" ++ String.singleton c ++ "\x27", true, none⟩

/-- Cuts a program's text into tokens. -/
def lex (source : String) : Except ProgramError (Array Token) :=
  lexFrom (source.length + 1) 1 source.toList #[]

end Regress.Awk
