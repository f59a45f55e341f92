import Regress.Shell.Awk.Lex

/-!
# Reading awk programs

The tokens of a program are parsed into rules and functions by the grammar of awk, by
recursive descent with one function for each level of precedence. From the loosest to the
tightest: assignment (to the right), `?:` (to the right), `||`, `&&`, `in`, `~` and `!~`, the
comparisons, concatenation, `+` and `-`, `*`, `/` and `%`, the unary `!`, `-` and `+`, `^` (to
the right), increments, and `$`.

* **Where `>` writes.** In the items of `print` and `printf`, outside brackets, `>` sends the
  output to a file rather than comparing; the file and a command after `|` are
  concatenations.
* **`getline`.** `getline` reads into a variable, a field or an element when one follows, and
  from a file after `<`; `command | getline` takes as its command the operand just before the
  bar.
* **Statements** end at `;`, a line break or a closing brace; line breaks may also follow
  `{`, `,`, `&&`, `||`, `do` and `else` and the conditions of `if`, `while` and `for`.
* **Errors** name the line and the token at which reading failed, in the words of the
  reader: a syntax error, a brace or bracket missing or extra, a statement used where it
  cannot be, or a call of a function with the wrong number of arguments or none defined.
-/

namespace Regress.Awk

/-- What the reader of a program keeps track of: the tokens and its place in them, the names
of the program's functions, whether it reads the items of a `print` (where `>` is not a
comparison), how many loops are open, whether it is in a function, whether `next` is out of
place, and the calls of functions seen with their number of arguments and line. -/
structure Reader where
  tokens : Array Token
  pos : Nat := 0
  functions : List String := []
  printItems : Bool := false
  loops : Nat := 0
  inFunction : Bool := false
  outsideRecords : Bool := false
  calls : List (String × Nat × Nat) := []
  deriving Inhabited

/-- A step of reading a program. -/
abbrev ReadM := StateT Reader (Except ProgramError)

/-- The token at the reader's place, or the last one (the end of the text). -/
def peekToken : ReadM Token := do
  let r ← get
  pure (r.tokens.getD r.pos (r.tokens.back?.getD default))

/-- The token some places after the reader's. -/
def peekAhead (k : Nat) : ReadM Token := do
  let r ← get
  pure (r.tokens.getD (r.pos + k) (r.tokens.back?.getD default))

/-- Moves past a token. -/
def advance : ReadM Unit :=
  modify fun r => { r with pos := r.pos + 1 }

/-- Whether a token is an operator. -/
def Token.isOp (t : Token) (o : String) : Bool :=
  match t.tok with
  | .op p => p == o
  | _ => false

/-- Whether a token is a keyword. -/
def Token.isKeyword (t : Token) (k : String) : Bool :=
  match t.tok with
  | .keyword w => w == k
  | _ => false

/-- Whether a token is a line break. -/
def Token.isNewline (t : Token) : Bool :=
  match t.tok with
  | .newline => true
  | _ => false

/-- Whether a token is the end of the text. -/
def Token.isEnd (t : Token) : Bool :=
  match t.tok with
  | .eof => true
  | _ => false

/-- A token as messages name it. -/
def Token.describe (t : Token) : String :=
  match t.tok with
  | .newline => "end of line"
  | .eof => "end of file"
  | _ => t.source

/-- How many of some brackets are open before the reader's place. -/
def openCount (opening closing : String) : ReadM Int := do
  let r ← get
  pure ((r.tokens.toList.take r.pos).foldl (fun n t =>
    if t.isOp opening then n + 1 else if t.isOp closing then n - 1 else n) (0 : Int))

/-- Fails with a syntax error at a token: a closing bracket with none open is extra, and a
line break, closing brace or end of text inside parentheses misses a `)`. -/
def syntaxError {α : Type} (t : Token) : ReadM α := do
  let parens ← openCount "(" ")"
  if t.isOp ")" && parens ≤ 0 then throw ⟨t.line, "extra \x27)\x27", false, none⟩
  else if t.isOp "\x7d" && (← openCount "\x7b" "\x7d") ≤ 0 then
    throw ⟨t.line, "extra \x27\x7d\x27", false, some "syntax error at or near end of line"⟩
  else if (t.isNewline || t.isOp "\x7d" || t.isEnd) && parens > 0 then
    throw ⟨t.line, "missing ) near " ++ t.describe, false, none⟩
  else throw ⟨t.line, "syntax error at or near " ++ t.describe, false, none⟩

/-- Fails for a closing bracket that is missing before a token. -/
def missingBefore {α : Type} (closing : String) (t : Token) : ReadM α :=
  if t.isEnd then throw ⟨t.line, "missing " ++ closing ++ " near end of file", false, none⟩
  else throw ⟨t.line, "missing " ++ closing ++ " near " ++ t.describe, false, none⟩

/-- Fails when the program is nested too deep to read. -/
def tooDeep {α : Type} : ReadM α := do
  throw ⟨(← peekToken).line, "program nested too deep", false, none⟩

/-- Moves past an operator, or fails at the token there. -/
def expectOp (o : String) : ReadM Unit := do
  let t ← peekToken
  if t.isOp o then advance else syntaxError t

/-- Moves past a closing parenthesis, or fails for it missing. -/
def closeParen : ReadM Unit := do
  let t ← peekToken
  if t.isOp ")" then advance else missingBefore ")" t

/-- Moves past line breaks. -/
def skipNewlines : Nat → ReadM Unit
  | 0 => pure ()
  | fuel + 1 => do
    if (← peekToken).isNewline then
      advance
      skipNewlines fuel

/-- Moves past line breaks and semicolons. -/
def skipSeparators : Nat → ReadM Unit
  | 0 => pure ()
  | fuel + 1 => do
    let t ← peekToken
    if t.isNewline || t.isOp ";" then
      advance
      skipSeparators fuel

/-- Moves past line breaks, as many as there are tokens. -/
def newlines : ReadM Unit := do
  skipNewlines (← get).tokens.size

/-- The operators that assign, each with the arithmetic it does first. -/
def assignOps : List (String × Option ArithOp) :=
  [("=", none), ("+=", some .add), ("-=", some .sub), ("*=", some .mul), ("/=", some .div),
   ("%=", some .mod), ("^=", some .pow)]

/-- The comparison operators. -/
def compareOps : List (String × CompareOp) :=
  [("<", .lt), ("<=", .le), ("==", .eq), ("!=", .ne), (">", .gt), (">=", .ge)]

/-- Whether an expression can be assigned to: a variable, an element or a field. -/
def Expr.isLvalue : Expr → Bool
  | .var _ | .element _ _ | .field _ => true
  | _ => false

/-- The subscripts an expression gives before `in`: the items of a group, or itself. -/
def Expr.subscripts : Expr → List Expr
  | .group items => items
  | e => [e]

/-- Whether a token can start an operand of a concatenation. -/
def Token.startsOperand (t : Token) : Bool :=
  match t.tok with
  | .number _ | .text _ | .regex _ | .name _ | .funcName _ | .builtin _ => true
  | .op o => o == "$" || o == "!" || o == "(" || o == "++" || o == "--"
  | _ => false

/-- Whether a token ends a simple statement: a semicolon, a line break, a closing brace or
the end of the text. -/
def Token.endsStatement (t : Token) : Bool :=
  t.isOp ";" || t.isNewline || t.isOp "\x7d" || t.isEnd

/-- Reads with `>` a comparison again, as inside brackets. -/
def nested {α : Type} (body : ReadM α) : ReadM α := do
  let saved := (← get).printItems
  modify fun r => { r with printItems := false }
  let v ← body
  modify fun r => { r with printItems := saved }
  pure v

/-- The line of the token read last. -/
def lastLine : ReadM Nat := do
  let r ← get
  pure (r.tokens.getD (r.pos - 1) default).line

/-- Fails for a constant string used as a regular expression that does not compile. -/
def checkRegexText (e : Expr) : ReadM Unit := do
  match e with
  | .text s =>
    match compileRegex s with
    | .error m => throw ⟨← lastLine, "regular expression compile failed (" ++ m ++ ")\n" ++ s, false, none⟩
    | .ok _ => pure ()
  | _ => pure ()

/-- Records a call of a function of the program. -/
def recordCall (name : String) (args : Nat) (line : Nat) : ReadM Unit :=
  modify fun r => { r with calls := r.calls ++ [(name, args, line)] }

mutual

/-- An expression: an assignment, or a conditional. -/
def parseExpr : Nat → ReadM Expr
  | 0 => tooDeep
  | fuel + 1 => do
    let left ← parseTernary fuel
    let t ← peekToken
    match t.tok with
    | .op o =>
      match assignOps.find? (·.1 == o) with
      | some (_, op) =>
        if left.isLvalue then
          advance
          let value ← parseExpr fuel
          pure (.assign op left value)
        else pure left
      | none => pure left
    | _ => pure left

/-- A conditional `test ? yes : no`, or what binds tighter. -/
def parseTernary : Nat → ReadM Expr
  | 0 => tooDeep
  | fuel + 1 => do
    let test ← parseOr fuel
    if (← peekToken).isOp "?" then
      advance
      let yes ← parseExpr fuel
      expectOp ":"
      let no ← parseExpr fuel
      pure (.cond test yes no)
    else pure test

/-- A chain of `||`. -/
def parseOr : Nat → ReadM Expr
  | 0 => tooDeep
  | fuel + 1 => do
    let left ← parseAnd fuel
    orRest fuel left

/-- The rest of a chain of `||` after its left side. -/
def orRest : Nat → Expr → ReadM Expr
  | 0, _ => tooDeep
  | fuel + 1, left => do
    if (← peekToken).isOp "||" then
      advance
      newlines
      let right ← parseAnd fuel
      orRest fuel (.or left right)
    else pure left

/-- A chain of `&&`. -/
def parseAnd : Nat → ReadM Expr
  | 0 => tooDeep
  | fuel + 1 => do
    let left ← parseIn fuel
    andRest fuel left

/-- The rest of a chain of `&&` after its left side. -/
def andRest : Nat → Expr → ReadM Expr
  | 0, _ => tooDeep
  | fuel + 1, left => do
    if (← peekToken).isOp "&&" then
      advance
      newlines
      let right ← parseIn fuel
      andRest fuel (.and left right)
    else pure left

/-- Membership tests `key in array`. -/
def parseIn : Nat → ReadM Expr
  | 0 => tooDeep
  | fuel + 1 => do
    let left ← parseMatch fuel
    inRest fuel left

/-- The rest of a chain of `in` after its left side. -/
def inRest : Nat → Expr → ReadM Expr
  | 0, _ => tooDeep
  | fuel + 1, left => do
    let t ← peekToken
    if t.isKeyword "in" then
      let n ← peekAhead 1
      match n.tok with
      | .name array =>
        advance
        advance
        inRest fuel (.member left.subscripts array)
      | _ => pure left
    else pure left

/-- Matches `~` and `!~`. -/
def parseMatch : Nat → ReadM Expr
  | 0 => tooDeep
  | fuel + 1 => do
    let left ← parseCompare fuel
    matchRest fuel left

/-- The rest of a chain of matches after its left side. -/
def matchRest : Nat → Expr → ReadM Expr
  | 0, _ => tooDeep
  | fuel + 1, left => do
    let t ← peekToken
    if t.isOp "~" || t.isOp "!~" then
      advance
      let right ← parseCompare fuel
      checkRegexText right
      matchRest fuel (.matches (t.isOp "!~") left right)
    else pure left

/-- Comparisons. -/
def parseCompare : Nat → ReadM Expr
  | 0 => tooDeep
  | fuel + 1 => do
    let left ← parseConcat fuel
    compareRest fuel left

/-- The rest of a chain of comparisons after its left side; in the items of a `print`, `>`
is no comparison. -/
def compareRest : Nat → Expr → ReadM Expr
  | 0, _ => tooDeep
  | fuel + 1, left => do
    let t ← peekToken
    let r ← get
    match t.tok with
    | .op o =>
      match compareOps.find? (·.1 == o) with
      | some (_, op) =>
        if o == ">" && r.printItems then pure left
        else
          advance
          let right ← parseConcat fuel
          compareRest fuel (.compare op left right)
      | none => pure left
    | _ => pure left

/-- A concatenation of operands written one after another. -/
def parseConcat : Nat → ReadM Expr
  | 0 => tooDeep
  | fuel + 1 => do
    let left ← parseAdditive fuel
    concatRest fuel left

/-- The rest of a concatenation after its first operands. -/
def concatRest : Nat → Expr → ReadM Expr
  | 0, _ => tooDeep
  | fuel + 1, left => do
    let t ← peekToken
    if t.startsOperand && !t.isKeyword "in" then
      let right ← parseAdditive fuel
      concatRest fuel (.concat left right)
    else pure left

/-- Sums and differences. -/
def parseAdditive : Nat → ReadM Expr
  | 0 => tooDeep
  | fuel + 1 => do
    let left ← parseMultiplicative fuel
    additiveRest fuel left

/-- The rest of a chain of `+` and `-` after its left side. -/
def additiveRest : Nat → Expr → ReadM Expr
  | 0, _ => tooDeep
  | fuel + 1, left => do
    let t ← peekToken
    if t.isOp "+" || t.isOp "-" then
      advance
      let right ← parseMultiplicative fuel
      additiveRest fuel (.arith (if t.isOp "+" then .add else .sub) left right)
    else pure left

/-- Products, quotients and remainders. -/
def parseMultiplicative : Nat → ReadM Expr
  | 0 => tooDeep
  | fuel + 1 => do
    let left ← parseUnary fuel
    multiplicativeRest fuel left

/-- The rest of a chain of `*`, `/` and `%` after its left side. -/
def multiplicativeRest : Nat → Expr → ReadM Expr
  | 0, _ => tooDeep
  | fuel + 1, left => do
    let t ← peekToken
    let op : Option ArithOp :=
      if t.isOp "*" then some .mul else if t.isOp "/" then some .div
      else if t.isOp "%" then some .mod else none
    match op with
    | some o =>
      advance
      let right ← parseUnary fuel
      multiplicativeRest fuel (.arith o left right)
    | none => pure left

/-- The unary operators `!`, `-` and `+`, or a power. -/
def parseUnary : Nat → ReadM Expr
  | 0 => tooDeep
  | fuel + 1 => do
    let t ← peekToken
    if t.isOp "!" then
      advance
      pure (.not (← parseUnary fuel))
    else if t.isOp "-" then
      advance
      pure (.negate (← parseUnary fuel))
    else if t.isOp "+" then
      advance
      pure (.plus (← parseUnary fuel))
    else parsePower fuel

/-- A power `base ^ exponent`, to the right; the exponent may carry a sign. -/
def parsePower : Nat → ReadM Expr
  | 0 => tooDeep
  | fuel + 1 => do
    let base ← parsePostfix fuel
    if (← peekToken).isOp "^" then
      advance
      let exponent ← parseExponent fuel
      pure (.arith .pow base exponent)
    else pure base

/-- The exponent of a power: a power, or one with unary operators before it. -/
def parseExponent : Nat → ReadM Expr
  | 0 => tooDeep
  | fuel + 1 => do
    let t ← peekToken
    if t.isOp "-" then
      advance
      pure (.negate (← parseExponent fuel))
    else if t.isOp "+" then
      advance
      pure (.plus (← parseExponent fuel))
    else if t.isOp "!" then
      advance
      pure (.not (← parseExponent fuel))
    else parsePower fuel

/-- An operand with an increment or decrement after it, and `command | getline`. -/
def parsePostfix : Nat → ReadM Expr
  | 0 => tooDeep
  | fuel + 1 => do
    let e ← parsePrimary fuel
    let t ← peekToken
    let e ← if e.isLvalue && (t.isOp "++" || t.isOp "--") then do
        advance
        pure (.incr false (t.isOp "++") e)
      else pure e
    pipeRest fuel e

/-- `command | getline`, as often as it is written after an operand. -/
def pipeRest : Nat → Expr → ReadM Expr
  | 0, _ => tooDeep
  | fuel + 1, command => do
    if (← peekToken).isOp "|" && (← peekAhead 1).isKeyword "getline" then
      advance
      advance
      let target ← parseTarget fuel
      pipeRest fuel (.getlineCommand command target)
    else pure command

/-- The variable, element or field `getline` reads into, if one follows. -/
def parseTarget : Nat → ReadM (Option Expr)
  | 0 => tooDeep
  | fuel + 1 => do
    let t ← peekToken
    match t.tok with
    | .name _ => pure (some (← parsePrimary fuel))
    | .op "$" => pure (some (← parsePrimary fuel))
    | _ => pure none

/-- The operand of `$`: an increment, a negation, or an operand. -/
def parseFieldIndex : Nat → ReadM Expr
  | 0 => tooDeep
  | fuel + 1 => do
    let t ← peekToken
    if t.isOp "++" || t.isOp "--" then
      advance
      let target ← parsePrimary fuel
      if target.isLvalue then pure (.incr true (t.isOp "++") target) else syntaxError t
    else if t.isOp "-" then
      advance
      pure (.negate (← parseFieldIndex fuel))
    else parsePrimary fuel

/-- The expressions of a list up to a closing parenthesis, which is left to the caller. -/
def parseItems : Nat → List Expr → ReadM (List Expr)
  | 0, _ => tooDeep
  | fuel + 1, acc => do
    let e ← nested (parseExpr fuel)
    let acc := acc ++ [e]
    if (← peekToken).isOp "," then
      advance
      newlines
      parseItems fuel acc
    else pure acc

/-- The arguments of a call: a parenthesized list, maybe empty. -/
def parseArgs : Nat → ReadM (List Expr)
  | 0 => tooDeep
  | fuel + 1 => do
    expectOp "("
    if (← peekToken).isOp ")" then
      advance
      pure []
    else
      let items ← parseItems fuel []
      closeParen
      pure items

/-- The subscripts of an element, after its opening bracket, up to and past the closing one. -/
def parseSubscripts : Nat → ReadM (List Expr)
  | 0 => tooDeep
  | fuel + 1 => do
    let items ← parseItems fuel []
    let t ← peekToken
    if t.isOp "]" then
      advance
      pure items
    else syntaxError t

/-- An operand: a constant, a variable or element, a field, a parenthesized expression or
list, a call, an increment before its target, or a `getline`. -/
def parsePrimary : Nat → ReadM Expr
  | 0 => tooDeep
  | fuel + 1 => do
    let t ← peekToken
    match t.tok with
    | .number x =>
      advance
      pure (.number x)
    | .text s =>
      advance
      pure (.text s)
    | .regex s =>
      advance
      pure (.regex s)
    | .op "$" =>
      advance
      pure (.field (← parseFieldIndex fuel))
    | .op "(" =>
      advance
      let items ← parseItems fuel []
      closeParen
      match items with
      | [e] => pure e
      | _ => pure (.group items)
    | .op "++" | .op "--" =>
      advance
      let target ← parsePrimary fuel
      if target.isLvalue then pure (.incr true (t.isOp "++") target) else syntaxError t
    | .op "-" =>
      advance
      pure (.negate (← parseUnary fuel))
    | .op "!" =>
      advance
      pure (.not (← parseUnary fuel))
    | .name n =>
      advance
      let next ← peekToken
      if next.isOp "[" then
        advance
        pure (.element n (← parseSubscripts fuel))
      else if next.isOp "(" && (← get).functions.contains n then
        let args ← parseArgs fuel
        recordCall n args.length (← lastLine)
        pure (.call n args)
      else pure (.var n)
    | .funcName n =>
      advance
      let args ← parseArgs fuel
      recordCall n args.length (← lastLine)
      pure (.call n args)
    | .builtin f =>
      advance
      let next ← peekToken
      if next.isOp "(" then
        let closing ← peekAhead 1
        let args ← parseArgs fuel
        let (least, most) := f.arity
        if args.isEmpty && least > 0 then syntaxError closing
        else if args.length < least || args.length > most then
          throw ⟨t.line, "wrong number of arguments in call to " ++ f.name, false, none⟩
        else
          match f, args with
          | .sub, re :: _ | .gsub, re :: _ | .match, [_, re] => checkRegexText re
          | .split, [_, _, .text sep] => if sep.length > 1 then checkRegexText (.text sep)
          | _, _ => pure ()
          pure (.builtin f args)
      else if f == .length then pure (.builtin .length [])
      else syntaxError next
    | .keyword "getline" =>
      advance
      let target ← parseTarget fuel
      if (← peekToken).isOp "<" then
        advance
        let file ← parsePrimary fuel
        pure (.getlineFile file target)
      else pure (.getline target)
    | _ => syntaxError t

end

/-- Moves past the end of a simple statement: a semicolon or line break; a closing brace or
the end of the text stays for the block around it. -/
def endSimple : ReadM Unit := do
  let t ← peekToken
  if t.isOp ";" || t.isNewline then advance
  else if t.isOp "\x7d" || t.isEnd then pure ()
  else syntaxError t

/-- Reads an expression with the reader's fuel. -/
def expression : ReadM Expr := do
  parseExpr (4 * (← get).tokens.size + 64)

/-- Reads an expression that ends the items of a `print`: a concatenation, where `>` is no
comparison. -/
def outputTarget : ReadM Expr := do
  let saved := (← get).printItems
  modify fun r => { r with printItems := true }
  let e ← parseConcat (4 * (← get).tokens.size + 64)
  modify fun r => { r with printItems := saved }
  pure e

/-- The items of a `print` after its first: expressions after commas, where `>` is no
comparison. -/
def printRest : Nat → List Expr → ReadM (List Expr)
  | 0, acc => pure acc
  | fuel + 1, acc => do
    if (← peekToken).isOp "," then
      advance
      newlines
      let e ← parseExpr (4 * (← get).tokens.size + 64)
      printRest fuel (acc ++ [e])
    else pure acc

/-- Reads the items of a `print` or `printf`, their parentheses dropped, and where they go. -/
def printParts : ReadM (List Expr × Option Output) := do
  let t ← peekToken
  let saved := (← get).printItems
  modify fun r => { r with printItems := true }
  let fuel := 4 * (← get).tokens.size + 64
  let items ← if t.endsStatement || t.isOp ">" || t.isOp ">>" || t.isOp "|" then pure []
    else do
      let first ← parseExpr fuel
      let rest ← printRest (← get).tokens.size []
      pure (first :: rest)
  modify fun r => { r with printItems := saved }
  let items := match items with
    | [.group inner] => inner
    | _ => items
  let d ← peekToken
  if d.isOp ">" then
    advance
    pure (items, some (.file (← outputTarget)))
  else if d.isOp ">>" then
    advance
    pure (items, some (.append (← outputTarget)))
  else if d.isOp "|" then
    advance
    pure (items, some (.pipe (← outputTarget)))
  else pure (items, none)

/-- Reads a simple statement. -/
def parseSimple : ReadM Stmt := do
  let t ← peekToken
  match t.tok with
  | .keyword "print" =>
    advance
    let (items, dest) ← printParts
    pure (.print items dest)
  | .keyword "printf" =>
    advance
    let (items, dest) ← printParts
    if items.isEmpty then throw ⟨t.line, "no arguments in call to printf", false, none⟩
    pure (.printf items dest)
  | .keyword "delete" =>
    advance
    let n ← peekToken
    match n.tok with
    | .name array =>
      advance
      if (← peekToken).isOp "[" then
        advance
        pure (.delete array (some (← parseSubscripts (4 * (← get).tokens.size + 64))))
      else pure (.delete array none)
    | _ => syntaxError n
  | .keyword "next" | .keyword "nextfile" =>
    if (← get).outsideRecords then throw ⟨t.line, "improper use of next", false, none⟩
    advance
    pure (if t.isKeyword "next" then .next else .nextFile)
  | .keyword "exit" =>
    advance
    if (← peekToken).endsStatement then pure (.exit none) else pure (.exit (some (← expression)))
  | .keyword "return" =>
    if !(← get).inFunction then throw ⟨t.line, "return outside function body", false, none⟩
    advance
    if (← peekToken).endsStatement then pure (.ret none) else pure (.ret (some (← expression)))
  | .keyword "break" =>
    if (← get).loops == 0 then throw ⟨t.line, "break statement outside of loop", false, none⟩
    advance
    pure .breakLoop
  | .keyword "continue" =>
    if (← get).loops == 0 then throw ⟨t.line, "continue statement outside of loop", false, none⟩
    advance
    pure .continueLoop
  | _ => pure (.expr (← expression))

/-- Runs a step of reading inside one more loop. -/
def inLoop {α : Type} (body : ReadM α) : ReadM α := do
  modify fun r => { r with loops := r.loops + 1 }
  let v ← body
  modify fun r => { r with loops := r.loops - 1 }
  pure v

/-- Moves past an opening parenthesis, reads an expression and moves past the closing one. -/
def condition : ReadM Expr := do
  expectOp "("
  let e ← nested expression
  closeParen
  pure e

mutual

/-- Reads a statement. -/
def parseStmt : Nat → ReadM Stmt
  | 0 => tooDeep
  | fuel + 1 => do
    let t ← peekToken
    match t.tok with
    | .op "\x7b" =>
      advance
      parseBlock fuel []
    | .op ";" =>
      advance
      pure (.block [])
    | .keyword "if" =>
      advance
      let test ← condition
      newlines
      let yes ← parseStmt fuel
      let saved := (← get).pos
      skipSeparators (← get).tokens.size
      if (← peekToken).isKeyword "else" then
        advance
        newlines
        let no ← parseStmt fuel
        pure (.ifElse test yes (some no))
      else
        modify fun r => { r with pos := saved }
        pure (.ifElse test yes none)
    | .keyword "while" =>
      advance
      let test ← condition
      newlines
      let body ← inLoop (parseStmt fuel)
      pure (.whileLoop test body)
    | .keyword "do" =>
      advance
      newlines
      let body ← inLoop (parseStmt fuel)
      skipSeparators (← get).tokens.size
      let w ← peekToken
      if !w.isKeyword "while" then syntaxError w
      advance
      let test ← condition
      endSimple
      pure (.doLoop body test)
    | .keyword "for" =>
      advance
      expectOp "("
      let a ← peekAhead 0
      let b ← peekAhead 1
      let c ← peekAhead 2
      let d ← peekAhead 3
      match a.tok, c.tok with
      | .name key, .name array =>
        if b.isKeyword "in" && d.isOp ")" then
          advance
          advance
          advance
          advance
          newlines
          let body ← inLoop (parseStmt fuel)
          pure (.forIn key array body)
        else forRest fuel
      | _, _ => forRest fuel
    | _ =>
      let s ← parseSimple
      endSimple
      pure s

/-- Reads the rest of a `for` loop of C after its opening parenthesis. -/
def forRest : Nat → ReadM Stmt
  | 0 => tooDeep
  | fuel + 1 => do
    let init ← if (← peekToken).isOp ";" then pure none else some <$> nested expression
    expectOp ";"
    newlines
    let test ← if (← peekToken).isOp ";" then pure none else some <$> nested expression
    expectOp ";"
    newlines
    let step ← if (← peekToken).isOp ")" then pure none else some <$> nested expression
    closeParen
    newlines
    let body ← inLoop (parseStmt fuel)
    pure (.forLoop init test step body)

/-- Reads the statements of a block after its opening brace, up to and past the closing one. -/
def parseBlock : Nat → List Stmt → ReadM Stmt
  | 0, _ => tooDeep
  | fuel + 1, acc => do
    skipSeparators (← get).tokens.size
    let t ← peekToken
    if t.isOp "\x7d" then
      advance
      pure (.block acc)
    else if t.isEnd then missingBefore "\x7d" t
    else
      let s ← parseStmt fuel
      parseBlock fuel (acc ++ [s])

end

/-- Reads an action: a block after its opening brace. -/
def action : ReadM Stmt := do
  let t ← peekToken
  if !t.isOp "\x7b" then syntaxError t
  advance
  parseBlock (4 * (← get).tokens.size + 64) []

/-- Reads a block where `next` is out of place: the action of `BEGIN` or `END`, or a
function's body. -/
def outsideAction (inFunction : Bool) : ReadM Stmt := do
  modify fun r => { r with outsideRecords := true, inFunction }
  let body ← action
  modify fun r => { r with outsideRecords := false, inFunction := false }
  pure body

/-- Reads the parameters of a function up to and past the closing parenthesis. -/
def parseParams : Nat → List String → ReadM (List String)
  | 0, _ => tooDeep
  | fuel + 1, acc => do
    let t ← peekToken
    match t.tok with
    | .name p =>
      advance
      let n ← peekToken
      if n.isOp "," then
        advance
        newlines
        parseParams fuel (acc ++ [p])
      else if n.isOp ")" then
        advance
        pure (acc ++ [p])
      else syntaxError n
    | .op ")" =>
      if acc.isEmpty then
        advance
        pure []
      else syntaxError t
    | _ => syntaxError t

/-- Reads the rules and functions of a program, onto those read so far. -/
def parseItemsOfProgram : Nat → Program → ReadM Program
  | 0, p => pure p
  | fuel + 1, p => do
    skipSeparators (← get).tokens.size
    let t ← peekToken
    match t.tok with
    | .eof => pure p
    | .keyword "function" =>
      advance
      let n ← peekToken
      let name ← match n.tok with
        | .name s | .funcName s => pure s
        | _ => syntaxError n
      advance
      expectOp "("
      let params ← parseParams (← get).tokens.size []
      newlines
      let body ← outsideAction true
      parseItemsOfProgram fuel { p with functions := p.functions ++ [⟨name, params, body⟩] }
    | .keyword "BEGIN" | .keyword "END" =>
      advance
      newlines
      let body ← outsideAction false
      let pattern : Pattern := if t.isKeyword "BEGIN" then .begin else .finish
      parseItemsOfProgram fuel { p with rules := p.rules ++ [⟨pattern, some body⟩] }
    | .op "\x7b" =>
      let body ← action
      parseItemsOfProgram fuel { p with rules := p.rules ++ [⟨.always, some body⟩] }
    | _ =>
      let first ← expression
      let pattern ← if (← peekToken).isOp "," then do
          advance
          newlines
          pure (Pattern.range first (← expression))
        else pure (Pattern.test first)
      let n ← peekToken
      if n.isOp "\x7b" then
        let body ← action
        parseItemsOfProgram fuel { p with rules := p.rules ++ [⟨pattern, some body⟩] }
      else if n.isNewline || n.isOp ";" || n.isEnd then
        parseItemsOfProgram fuel { p with rules := p.rules ++ [⟨pattern, none⟩] }
      else syntaxError n

/-- The names the program declares as functions. -/
def declaredFunctions (tokens : Array Token) : List String :=
  (tokens.toList.zip (tokens.toList.drop 1)).filterMap fun (a, b) =>
    if a.isKeyword "function" then
      match b.tok with
      | .name s | .funcName s => some s
      | _ => none
    else none

/-- Checks the calls of a program's functions: each function called is defined, with no
more arguments than it has parameters. -/
def checkCalls (p : Program) (endLine : Nat) : List (String × Nat × Nat) → Except ProgramError Unit
  | [] => .ok ()
  | (name, args, line) :: rest =>
    match p.functions.find? (·.name == name) with
    | none => .error ⟨endLine, "function " ++ name ++ " never defined", false, none⟩
    | some f =>
      if args > f.params.length then .error ⟨line, "too many arguments in call to " ++ name, false, none⟩
      else checkCalls p endLine rest

/-- Reads a program from its text. -/
def parseProgram (source : String) : Except ProgramError Program := do
  let tokens ← lex source
  let reader : Reader := { tokens, functions := declaredFunctions tokens }
  let (p, r) ← (parseItemsOfProgram (tokens.size + 1) {}).run reader
  let endLine := (tokens.back?.map (·.line)).getD 1
  checkCalls p endLine r.calls
  pure p

end Regress.Awk
