/-!
# Shell arithmetic

The expression of `$((...))`, evaluated as the shell does: on 64-bit signed integers that wrap,
with the operators of C and their precedence.

* Numbers are decimal, octal after a leading `0` or hexadecimal after `0x`; one too large for
  64 bits reads as the largest. A name stands for its variable's value, read the same way; an
  unset or blank variable is 0, and any other text is an illegal number.
* Unary `+ - ! ~` bind tightest, then `* / %`, `+ -`, `<< >>`, the comparisons, `== !=`, `&`,
  `^`, `|`, `&&`, `||`, `? :`, and the assignments `= *= /= %= += -= <<= >>= &= ^= |=`, which
  only a name can take.
* `&&`, `||` and `? :` read the side they do not need without evaluating it: no assignment
  happens there and no division by zero is found there.
* Division and remainder round toward zero; dividing by zero is an error. Shifts take their
  count modulo 64.

Bash adds `**`, `++` and `--`, the comma and numbers `base#digits`; a variable's value is
read as an expression of its own. An error names its reason and the whole expression; in
bash also the token where it was found.
-/

namespace Regress.Shell

/-- A token of an arithmetic expression. -/
inductive ArithToken where
  | num (n : Int)
  | name (s : String)
  | op (s : String)
  | lparen
  | rparen
  | question
  | colon
  | bad
  deriving Repr, DecidableEq, Inhabited

/-- Why an arithmetic expansion failed. Bash words its errors itself: the expression they were
found in, the reason, and the text from where it stopped. -/
inductive ArithError where
  | malformed (reason : String)
  | divisionByZero
  | illegalNumber (text : String)
  | located (expr reason token : String)
  deriving Repr, DecidableEq, Inhabited

/-- The message for a failed expression `source`. -/
def ArithError.message (source : String) : ArithError → String
  | .malformed r => "arithmetic expression: " ++ r ++ ": \"" ++ source ++ "\""
  | .divisionByZero => "arithmetic expression: division by zero: \"" ++ source ++ "\""
  | .illegalNumber t => "Illegal number: " ++ t
  | .located expr reason token => expr ++ ": " ++ reason ++ " (error token is \"" ++ token ++ "\")"

/-- The greatest 64-bit signed integer. -/
def intMax : Int := 9223372036854775807

/-- An integer taken into the 64-bit signed range, wrapping around. -/
def wrap64 (x : Int) : Int :=
  let m : Int := 18446744073709551616
  let r := x % m
  if r > intMax then r - m else r

/-- The value of a digit in a base up to 16, if it is one. -/
def digitValue (base : Nat) (c : Char) : Option Nat :=
  let v :=
    if c.isDigit then some (c.toNat - '0'.toNat)
    else if 'a' ≤ c && c ≤ 'f' then some (c.toNat - 'a'.toNat + 10)
    else if 'A' ≤ c && c ≤ 'F' then some (c.toNat - 'A'.toNat + 10)
    else none
  v.bind fun d => if d < base then some d else none

/-- Reads the digits of a base at the start of a text: their value and the text after them. -/
def readDigits (base : Nat) (cs : List Char) : Nat × List Char :=
  let ds := cs.takeWhile fun c => (digitValue base c).isSome
  (ds.foldl (fun a c => a * base + (digitValue base c).getD 0) 0, cs.drop ds.length)

/-- Reads an integer the way C's `strtoimax` reads one with base 0, at the start of a text that
has no blanks in front: its magnitude, whether any digit was read, and the text after it. A
`0x` not followed by a hexadecimal digit is the number 0 followed by `x`. -/
def readNumber (cs : List Char) : Nat × Bool × List Char :=
  match cs with
  | '0' :: x :: rest =>
    if (x == 'x' || x == 'X') && (rest.head?.bind (digitValue 16)).isSome then
      let (v, after) := readDigits 16 rest
      (v, true, after)
    else
      let (v, after) := readDigits 8 (x :: rest)
      (v, true, after)
  | ['0'] => (0, true, [])
  | c :: _ =>
    if c.isDigit then
      let (v, after) := readDigits 10 cs
      (v, true, after)
    else (0, false, cs)
  | [] => (0, false, [])

/-- A magnitude with a sign, held to the 64-bit range as `strtoimax` holds it: the value and
whether it was out of range. -/
def clampSigned (negative : Bool) (v : Nat) : Int × Bool :=
  if negative then
    if v > 9223372036854775808 then (-9223372036854775808, true) else (-(v : Int), false)
  else if v > 9223372036854775807 then (intMax, true) else ((v : Int), false)

/-- The value of a digit of bash's numbers in a base up to 64: digits, then small letters,
capitals, `@` and `_`; up to base 36 a capital is worth its small letter. -/
def bashDigit (base : Nat) (c : Char) : Option Nat :=
  let v :=
    if c.isDigit then some (c.toNat - 48)
    else if 'a' ≤ c && c ≤ 'z' then some (c.toNat - 87)
    else if 'A' ≤ c && c ≤ 'Z' then some (if base ≤ 36 then c.toNat - 55 else c.toNat - 29)
    else if c == '@' then some 62
    else if c == '_' then some 63
    else none
  v

/-- The value of a number of bash's arithmetic: decimal, octal after `0`, hexadecimal after
`0x`, or `base#digits` for a base from 2 to 64; the reason when it is none. Values wrap to 64
bits. -/
def bashNumber (text : String) : Except String Int :=
  let digitsIn (base : Nat) (cs : List Char) : Except String Int :=
    cs.foldlM (fun (acc : Int) c =>
      match bashDigit base c with
      | some d => if d < base then .ok (wrap64 (acc * base + d)) else .error "value too great for base"
      | none => .error "value too great for base") 0
  match text.splitOn "#" with
  | [b, ds] =>
    match b.toNat? with
    | some base =>
      if base < 2 || base > 64 then .error "invalid arithmetic base"
      else if ds.isEmpty then .error "invalid integer constant"
      else digitsIn base ds.toList
    | none => .error "invalid arithmetic base"
  | [_] =>
    match text.toList with
    | '0' :: x :: rest => if x == 'x' || x == 'X' then digitsIn 16 rest else digitsIn 8 (x :: rest)
    | cs => digitsIn 10 cs
  | _ => .error "invalid number"

/-- The operators made of symbols, longest first. -/
def arithOperators : List String :=
  ["<<=", ">>=", "<=", ">=", "==", "!=", "&&", "||", "<<", ">>", "*=", "/=", "%=", "+=", "-=",
    "&=", "^=", "|=", "<", ">", "=", "!", "~", "*", "/", "%", "+", "-", "&", "^", "|"]

/-- The operators of bash's arithmetic, longest first: those of the POSIX shell, the power
`**` and the comma. -/
def bashArithOperators : List String :=
  ["<<=", ">>=", "**", "<=", ">=", "==", "!=", "&&", "||", "<<", ">>", "*=", "/=", "%=", "+=", "-=",
    "&=", "^=", "|=", "<", ">", "=", "!", "~", "*", "/", "%", "+", "-", "&", "^", "|", ","]

/-- Whether a character may start a name. -/
def isArithNameStart (c : Char) : Bool :=
  (c.toNat < 128 && c.isAlpha) || c == '_'

/-- Whether a character may stand in a name. -/
def isArithNameChar (c : Char) : Bool :=
  (c.toNat < 128 && c.isAlphanum) || c == '_'

/-- Cuts an arithmetic expression into tokens, each with the place where it starts; `pos` is
the place of the first character. -/
def arithTokens : Nat → Nat → List Char → List (ArithToken × Nat)
  | 0, _, _ => []
  | _ + 1, _, [] => []
  | fuel + 1, pos, c :: rest =>
    if c == ' ' || c == '\t' || c == '\n' then arithTokens fuel (pos + 1) rest
    else if c.isDigit then
      let (v, _, after) := readNumber (c :: rest)
      let used := rest.length + 1 - after.length
      (.num (clampSigned false v).1, pos) :: arithTokens fuel (pos + used) after
    else if isArithNameStart c then
      let name := (c :: rest).takeWhile isArithNameChar
      (.name (String.ofList name), pos) :: arithTokens fuel (pos + name.length) ((c :: rest).drop name.length)
    else if c == '(' then (.lparen, pos) :: arithTokens fuel (pos + 1) rest
    else if c == ')' then (.rparen, pos) :: arithTokens fuel (pos + 1) rest
    else if c == '?' then (.question, pos) :: arithTokens fuel (pos + 1) rest
    else if c == ':' then (.colon, pos) :: arithTokens fuel (pos + 1) rest
    else
      match arithOperators.find? fun o => (c :: rest).take o.length == o.toList with
      | some o => (.op o, pos) :: arithTokens fuel (pos + o.length) ((c :: rest).drop o.length)
      | none => [(.bad, pos)]

/-- Cuts an expression of bash's arithmetic into tokens, each with the place where it starts.
A number is the whole run of letters, digits, `#`, `@` and `_` from its first digit; a name
may carry a subscript `[...]`; `++` and `--` after a name are its increment afterwards, before
a name its increment before, and otherwise two signs. `prevName` tells whether the token
before was a name. -/
def bashArithTokens : Nat → Nat → Bool → List Char → Except (String × Nat) (List (ArithToken × Nat))
  | 0, _, _, _ => .ok []
  | _ + 1, _, _, [] => .ok []
  | fuel + 1, pos, prevName, c :: rest =>
    let more (t : ArithToken) (used : Nat) (after : List Char) (isName : Bool) :
        Except (String × Nat) (List (ArithToken × Nat)) :=
      (bashArithTokens fuel (pos + used) isName after).map ((t, pos) :: ·)
    if c == ' ' || c == '\t' || c == '\n' then bashArithTokens fuel (pos + 1) prevName rest
    else if c.isDigit then
      let run := (c :: rest).takeWhile fun d => d.isAlphanum || d == '#' || d == '@' || d == '_'
      match bashNumber (String.ofList run) with
      | .ok v => more (.num v) run.length ((c :: rest).drop run.length) false
      | .error reason => .error (reason, pos)
    else if isArithNameStart c then
      let name := (c :: rest).takeWhile isArithNameChar
      let after := (c :: rest).drop name.length
      match after with
      | '[' :: sub =>
        let inner := sub.takeWhile (· != ']')
        if inner.length == sub.length then .error ("bad array subscript", pos)
        else
          more (.name (String.ofList name ++ "[" ++ String.ofList inner ++ "]")) (name.length + inner.length + 2)
            (sub.drop (inner.length + 1)) true
      | _ => more (.name (String.ofList name)) name.length after true
    else if c == '(' then more .lparen 1 rest false
    else if c == ')' then more .rparen 1 rest false
    else if c == '?' then more .question 1 rest false
    else if c == ':' then more .colon 1 rest false
    else if (c == '+' || c == '-') && rest.head? == some c then
      let next := (rest.drop 1).dropWhile fun d => d == ' ' || d == '\t' || d == '\n'
      if prevName then more (.op (if c == '+' then "post++" else "post--")) 2 (rest.drop 1) false
      else if next.head?.any isArithNameStart then more (.op (String.ofList [c, c])) 2 (rest.drop 1) false
      else more (.op (String.singleton c)) 1 rest false
    else
      match bashArithOperators.find? fun o => (c :: rest).take o.length == o.toList with
      | some o => more (.op o) o.length ((c :: rest).drop o.length) false
      | none => more .bad 1 rest false

/-- The precedence of a binary operator, tighter first; `none` for other tokens. -/
def binaryPrecedence : String → Option Nat
  | "*" | "/" | "%" => some 0
  | "+" | "-" => some 1
  | "<<" | ">>" => some 2
  | "<" | "<=" | ">" | ">=" => some 3
  | "==" | "!=" => some 4
  | "&" => some 5
  | "^" => some 6
  | "|" => some 7
  | _ => none

/-- Applies a binary operator. -/
def applyBinary (op : String) (a b : Int) : Except ArithError Int :=
  let bool (p : Bool) : Int := if p then 1 else 0
  match op with
  | "*" => .ok (wrap64 (a * b))
  | "/" => if b == 0 then .error .divisionByZero else .ok (wrap64 (a.tdiv b))
  | "%" => if b == 0 then .error .divisionByZero else .ok (wrap64 (a.tmod b))
  | "+" => .ok (wrap64 (a + b))
  | "-" => .ok (wrap64 (a - b))
  | "<<" => .ok (wrap64 (a * (Nat.pow 2 (b % 64).toNat : Int)))
  | ">>" => .ok (a / (Nat.pow 2 (b % 64).toNat : Int))
  | "<" => .ok (bool (a < b))
  | "<=" => .ok (bool (a ≤ b))
  | ">" => .ok (bool (a > b))
  | ">=" => .ok (bool (a ≥ b))
  | "==" => .ok (bool (a == b))
  | "!=" => .ok (bool (a != b))
  | "&" => .ok (Int64.ofInt a &&& Int64.ofInt b).toInt
  | "^" => .ok (Int64.ofInt a ^^^ Int64.ofInt b).toInt
  | "|" => .ok (Int64.ofInt a ||| Int64.ofInt b).toInt
  | _ => .ok 0

/-- A power on 64-bit integers that wrap, by squaring: `bits` bounds the exponent's bits. -/
def wrappedPower : Nat → Int → Nat → Int
  | 0, _, _ => 1
  | bits + 1, a, b =>
    if b == 0 then 1
    else
      let half := wrappedPower bits (wrap64 (a * a)) (b / 2)
      if b % 2 == 1 then wrap64 (a * half) else half

/-- The operator an assignment combines with, `none` for a plain `=`; not an assignment at all
gives `none` outside. -/
def assignmentOp : String → Option (Option String)
  | "=" => some none
  | "*=" => some (some "*")
  | "/=" => some (some "/")
  | "%=" => some (some "%")
  | "+=" => some (some "+")
  | "-=" => some (some "-")
  | "<<=" => some (some "<<")
  | ">>=" => some (some ">>")
  | "&=" => some (some "&")
  | "^=" => some (some "^")
  | "|=" => some (some "|")
  | _ => none

/-- What evaluating an expression reads and writes: how a variable's value is found, the
assignments made so far (last first), whether the rules are bash's, and the expression's text,
which bash's errors quote. -/
structure ArithEnv where
  lookup : String → Option String
  assigned : List (String × Int) := []
  bash : Bool := false
  source : String := ""

/-- The value of a variable in the POSIX shell's arithmetic: an assignment made during the
evaluation, else its text read as a number; unset or blank is 0, and any other text is an
illegal number. -/
def ArithEnv.value (env : ArithEnv) (name : String) : Except ArithError Int :=
  match env.assigned.find? (·.1 == name) with
  | some (_, v) => .ok v
  | none =>
    let text := (env.lookup name).getD ""
    let cs := text.toList.dropWhile fun c => c == ' ' || c == '\t' || c == '\n'
    let (negative, cs) := match cs with
      | '-' :: r => (true, r)
      | '+' :: r => (false, r)
      | r => (false, r)
    let (v, _, after) := readNumber cs
    let (value, overflow) := clampSigned negative v
    if overflow then .error (.illegalNumber text)
    else if (after.dropWhile fun c => c == ' ' || c == '\t' || c == '\n').isEmpty then .ok value
    else .error (.illegalNumber text)

/-- The text of a variable for bash's arithmetic, which reads it as an expression of its own:
an assignment made during the evaluation, else its value; `none` when that is unset or blank. -/
def ArithEnv.text? (env : ArithEnv) (name : String) : Option String :=
  match env.assigned.find? (·.1 == name) with
  | some (_, v) => some (toString v)
  | none =>
    match env.lookup name with
    | some t => if t.all fun c => c == ' ' || c == '\t' || c == '\n' then none else some t
    | none => none

/-- The state of an evaluation: the tokens left, the environment, and where the last token
taken started. -/
structure ArithState where
  tokens : List (ArithToken × Nat)
  env : ArithEnv
  last : Nat := 0

/-- A step of evaluation: the tokens left and the environment are threaded through. -/
abbrev ArithM := StateT ArithState (Except ArithError)

/-- The next token, without taking it. -/
def peekToken : ArithM (Option ArithToken) := do
  pure ((← get).tokens.head?.map (·.1))

/-- Takes the next token. -/
def takeToken : ArithM Unit :=
  modify fun st => match st.tokens with
    | (_, p) :: rest => { st with tokens := rest, last := p }
    | [] => st

/-- Where the next token starts, or the end of the expression. -/
def nextPlace : ArithM Nat := do
  let st ← get
  pure ((st.tokens.head?.map (·.2)).getD st.env.source.length)

/-- The text bash shows where an error was found: from the token being looked at, or from the
last one taken when none is left. -/
def errorToken (st : ArithState) : String :=
  let p := match st.tokens with
    | (_, p) :: _ => p
    | [] => st.last
  String.ofList (st.env.source.toList.drop p)

/-- Stops with a syntax error: the reason in the words of the POSIX shell and of bash. -/
def syntaxFail {α : Type} (posix bash : String) : ArithM α := do
  let st ← get
  if st.env.bash then throw (.located st.env.source bash (errorToken st))
  else throw (.malformed posix)

/-- Stops with a syntax error of the POSIX shell. -/
def arithFail {α : Type} (reason : String) : ArithM α :=
  throw (.malformed reason)

/-- Applies a binary operator whose right operand starts after `after`, bash naming the text
from there when it divides by zero. -/
def applyAt (op : String) (a b : Int) (after : Nat) : ArithM Int := do
  let st ← get
  match applyBinary op a b with
  | .ok v => pure v
  | .error .divisionByZero =>
    if st.env.bash then
      let rest := (st.env.source.toList.drop after).dropWhile fun c => c == ' ' || c == '\t' || c == '\n'
      throw (.located st.env.source "division by 0" (String.ofList rest))
    else throw .divisionByZero
  | .error e => throw e

/-- Records an assignment. -/
def recordAssignment (name : String) (v : Int) : ArithM Unit :=
  modify fun st => { st with env := { st.env with assigned := (name, v) :: st.env.assigned } }

mutual

/-- Reads expressions separated by commas in bash; the last one's value is the value. -/
def commaExpr : Nat → Bool → ArithM Int
  | 0, _ => arithFail "expression too deep"
  | fuel + 1, eval => do
    let v ← assignExpr fuel eval
    match ← peekToken with
    | some (.op ",") =>
      takeToken
      commaExpr fuel eval
    | _ => pure v

/-- Reads an assignment or a conditional; `eval` is false where the value is not needed. -/
def assignExpr : Nat → Bool → ArithM Int
  | 0, _ => arithFail "expression too deep"
  | fuel + 1, eval => do
    let st ← get
    match st.tokens with
    | (.name n, _) :: (.op o, p) :: _ =>
      match assignmentOp o with
      | some combine =>
        takeToken
        takeToken
        let v ← assignExpr fuel eval
        if !eval then pure v
        else
          let result ← match combine with
            | none => pure v
            | some op => do
              let old ← variableValue fuel n
              applyAt op old v (p + o.length)
          recordAssignment n result
          pure result
      | none => condExpr fuel eval
    | _ =>
      let v ← condExpr fuel eval
      match (← get).tokens with
      | (.op o, _) :: _ =>
        if st.env.bash && (assignmentOp o).isSome then
          syntaxFail "" "attempted assignment to non-variable"
        else pure v
      | _ => pure v

/-- Reads `a ? b : c`. -/
def condExpr : Nat → Bool → ArithM Int
  | 0, _ => arithFail "expression too deep"
  | fuel + 1, eval => do
    let a ← orExpr fuel eval
    match ← peekToken with
    | some .question =>
      takeToken
      let bash := (← get).env.bash
      let b ← if bash then commaExpr fuel (eval && a != 0) else assignExpr fuel (eval && a != 0)
      match ← peekToken with
      | some .colon =>
        takeToken
        let c ← condExpr fuel (eval && a == 0)
        pure (if a != 0 then b else c)
      | _ => syntaxFail "expecting \x27:\x27" "\x60:\x27 expected for conditional expression"
    | _ => pure a

/-- Reads `||`. -/
def orExpr : Nat → Bool → ArithM Int
  | 0, _ => arithFail "expression too deep"
  | fuel + 1, eval => do
    let a ← andExpr fuel eval
    match ← peekToken with
    | some (.op "||") =>
      takeToken
      let b ← orExpr fuel (eval && a == 0)
      pure (if a != 0 || b != 0 then 1 else 0)
    | _ => pure a

/-- Reads `&&`. -/
def andExpr : Nat → Bool → ArithM Int
  | 0, _ => arithFail "expression too deep"
  | fuel + 1, eval => do
    let a ← binaryExpr fuel eval 8
    match ← peekToken with
    | some (.op "&&") =>
      takeToken
      let b ← andExpr fuel (eval && a != 0)
      pure (if a != 0 && b != 0 then 1 else 0)
    | _ => pure a

/-- Reads binary operators tighter than the level `level`, left to right. -/
def binaryExpr : Nat → Bool → Nat → ArithM Int
  | 0, _, _ => arithFail "expression too deep"
  | fuel + 1, eval, level => do
    let a ← powerExpr fuel eval
    binaryRest fuel eval level a

/-- Reads the binary operators after the operand `a`. -/
def binaryRest : Nat → Bool → Nat → Int → ArithM Int
  | 0, _, _, _ => arithFail "expression too deep"
  | fuel + 1, eval, level, a => do
    match (← get).tokens with
    | (.op o, p) :: _ =>
      match binaryPrecedence o with
      | some prec =>
        if prec < level then
          takeToken
          let b ← binaryExpr fuel eval prec
          let v ← if eval then applyAt o a b (p + o.length) else pure b
          binaryRest fuel eval level v
        else pure a
      | none => pure a
    | _ => pure a

/-- Reads bash's power `a ** b`, which groups to the right and binds tighter than the other
binary operators. -/
def powerExpr : Nat → Bool → ArithM Int
  | 0, _ => arithFail "expression too deep"
  | fuel + 1, eval => do
    let a ← unaryExpr fuel eval
    match ← peekToken with
    | some (.op "**") =>
      takeToken
      let b ← powerExpr fuel eval
      if !eval then pure a
      else if b < 0 then syntaxFail "" "exponent less than 0"
      else pure (wrappedPower 64 a b.toNat)
    | _ => pure a

/-- Reads a unary operator or a primary. -/
def unaryExpr : Nat → Bool → ArithM Int
  | 0, _ => arithFail "expression too deep"
  | fuel + 1, eval => do
    match ← peekToken with
    | some (.op "+") =>
      takeToken
      unaryExpr fuel eval
    | some (.op "-") =>
      takeToken
      pure (wrap64 (-(← unaryExpr fuel eval)))
    | some (.op "!") =>
      takeToken
      pure (if (← unaryExpr fuel eval) == 0 then 1 else 0)
    | some (.op "~") =>
      takeToken
      pure (wrap64 (-(← unaryExpr fuel eval) - 1))
    | some (.op "++") | some (.op "--") =>
      let up := (← peekToken) == some (.op "++")
      takeToken
      match ← peekToken with
      | some (.name n) =>
        takeToken
        if !eval then pure 0
        else
          let v := wrap64 ((← variableValue fuel n) + (if up then 1 else -1))
          recordAssignment n v
          pure v
      | _ => syntaxFail "" "syntax error: operand expected"
    | some (.num n) =>
      takeToken
      pure n
    | some (.name n) =>
      takeToken
      match ← peekToken with
      | some (.op "post++") | some (.op "post--") =>
        let up := (← peekToken) == some (.op "post++")
        takeToken
        if !eval then pure 0
        else
          let old ← variableValue fuel n
          recordAssignment n (wrap64 (old + (if up then 1 else -1)))
          pure old
      | _ => if eval then variableValue fuel n else pure 0
    | some .lparen =>
      takeToken
      let v ← if (← get).env.bash then commaExpr fuel eval else assignExpr fuel eval
      match ← peekToken with
      | some .rparen =>
        takeToken
        pure v
      | _ => syntaxFail "expecting \x27)\x27" "missing \x60)\x27"
    | _ => syntaxFail "expecting primary" "syntax error: operand expected"

/-- The value of a variable: in the POSIX shell its text read as a number; in bash its text
read as an expression of its own, whose errors quote that text. -/
def variableValue : Nat → String → ArithM Int
  | 0, _ => arithFail "expression too deep"
  | fuel + 1, name => do
    let st ← get
    if !st.env.bash then StateT.lift (st.env.value name)
    else
      match st.env.text? name with
      | none => pure 0
      | some text =>
        let inner : ArithEnv := { st.env with source := text }
        match bashText fuel inner with
        | .ok (v, env) =>
          modify fun st' => { st' with env := { st'.env with assigned := env.assigned } }
          pure v
        | .error e => throw e

/-- Evaluates a whole text under bash's rules, in an environment whose source it is. -/
def bashText : Nat → ArithEnv → Except ArithError (Int × ArithEnv)
  | 0, _ => .error (.malformed "expression too deep")
  | fuel + 1, env =>
    let source := env.source
    match bashArithTokens (source.length + 1) 0 false source.toList with
    | .error (reason, p) =>
      let run := (source.toList.drop p).takeWhile fun d => d.isAlphanum || d == '#' || d == '@' || d == '_'
      .error (.located (String.ofList run) reason (String.ofList run))
    | .ok [] => .ok (0, env)
    | .ok tokens =>
      match (commaExpr fuel true).run { tokens, env } with
      | .error e => .error e
      | .ok (v, st) =>
        if st.tokens.isEmpty then .ok (v, st.env)
        else .error (.located source "syntax error in expression" (errorToken st))

end

/-- Evaluates an arithmetic expression whose variables are found by `lookup`: its value and the
variables it assigned, in the order assigned, or why it failed. Under bash's rules blanks
before the expression are dropped, an empty expression is 0, and a variable's value is read as
an expression. -/
def evalArith (bash : Bool) (source : String) (lookup : String → Option String) :
    Except ArithError (Int × List (String × Int)) :=
  if bash then
    let source := String.ofList (source.toList.dropWhile fun c => c == ' ' || c == '\t' || c == '\n')
    match bashText (8 * (source.length + 2) + 4096) { lookup, bash := true, source } with
    | .ok (v, env) => .ok (v, env.assigned.reverse)
    | .error e => .error e
  else
    let tokens := arithTokens (source.length + 1) 0 source.toList
    let fuel := 4 * (tokens.length + 2)
    match (assignExpr fuel true).run { tokens, env := { lookup, source } } with
    | .error e => .error e
    | .ok (v, st) =>
      if st.tokens.isEmpty then .ok (v, st.env.assigned.reverse)
      else .error (.malformed "expecting EOF")

end Regress.Shell
