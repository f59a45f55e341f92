import Regress.Shell.Utility.Basic
import Regress.Text.Regex

/-!
# expr

`expr` evaluates an expression given as separate arguments and writes its value.

* From loosest to tightest: `|`, `&`, the comparisons `< <= = == != >= >`, `+ -`, `* / %`,
  `:` (a basic regular expression matched at the start), and the primaries: a parenthesized
  expression, `match`, `substr`, `index`, `length`, `+ TOKEN`, or a token.
* A value is an integer when it is written as one: an optional `-` and digits. Arithmetic needs
  integers and is exact; comparisons compare integers as numbers and anything else as text.
* A value is null when it is empty or an integer zero. The exit status is 0 for a value that is
  not null, 1 for a null one, 2 for a malformed expression or bad arithmetic, and 3 when a
  regular expression is malformed.
-/

namespace Regress.Shell

/-- A value of `expr`. -/
inductive ExprValue where
  | int (n : Int)
  | str (s : String)
  deriving Repr, DecidableEq, Inhabited

/-- Whether a text is written as an integer. -/
def looksLikeInteger (s : String) : Bool :=
  let cs := match s.toList with
    | '-' :: r => r
    | r => r
  !cs.isEmpty && cs.all Char.isDigit

namespace ExprValue

/-- The text of a value. -/
def text : ExprValue → String
  | .int n => toString n
  | .str s => s

/-- The value as an integer, if it is one. -/
def toInt? : ExprValue → Option Int
  | .int n => some n
  | .str s => if looksLikeInteger s then s.toInt? else none

/-- Whether a value is null: empty, or an integer zero. -/
def isNull : ExprValue → Bool
  | .int n => n == 0
  | .str s =>
    let cs := match s.toList with
      | '-' :: r => r
      | r => r
    s.isEmpty || (!cs.isEmpty && cs.all (· == '0'))

end ExprValue

/-- Why an expression failed: its message and exit status. -/
abbrev ExprFailure := String × Nat

/-- A step of reading and evaluating: the arguments left. -/
abbrev ExprM := StateT (List String) (Except ExprFailure)

/-- Fails with a message and status. -/
def exprFail {α : Type} (msg : String) (status : Nat) : ExprM α :=
  throw (msg, status)

/-- Takes the next argument when it is `s`. -/
def nextIs (s : String) : ExprM Bool := do
  match ← get with
  | a :: rest => if a == s then do set rest; pure true else pure false
  | [] => pure false

/-- The last argument read, for messages. -/
def quoteArg (a : String) : String :=
  quoteName a

/-- Compares two values the way the comparison operators do. -/
def compareValues (a b : ExprValue) : Ordering :=
  match a.toInt?, b.toInt? with
  | some x, some y => compare x y
  | _, _ => compare a.text.toUTF8.toList b.text.toUTF8.toList

/-- Matches a basic regular expression at the start of a text, as `:` does. -/
def colonMatch (s pattern : String) : Except ExprFailure ExprValue :=
  match Regex.parseWith { extended := false, strict := false, lookahead := false } pattern with
  | .error m => .error (m, 2)
  | .ok r =>
    let input := s.toList.toArray
    match r.longestAt input 0 with
    | some (e, caps) =>
      if r.groupCount > 0 then
        match Regex.captured caps 1 with
        | some (a, b) => .ok (.str (String.ofList ((input.toList.drop a).take (b - a))))
        | none => .ok (.str "")
      else .ok (.int e)
    | none => if r.groupCount > 0 then .ok (.str "") else .ok (.int 0)

mutual

/-- Reads `|` alternatives. -/
def exprOr : Nat → Bool → ExprM ExprValue
  | 0, _ => exprFail "expression too deep" 2
  | fuel + 1, evaluate => do
    let l ← exprAnd fuel evaluate
    exprOrRest fuel evaluate l

/-- The alternatives after the first. -/
def exprOrRest : Nat → Bool → ExprValue → ExprM ExprValue
  | 0, _, l => pure l
  | fuel + 1, evaluate, l => do
    if ← nextIs "|" then
      let r ← exprAnd fuel (evaluate && l.isNull)
      let l := if l.isNull then (if r.isNull then .int 0 else r) else l
      exprOrRest fuel evaluate l
    else pure l

/-- Reads `&` conjunctions. -/
def exprAnd : Nat → Bool → ExprM ExprValue
  | 0, _ => exprFail "expression too deep" 2
  | fuel + 1, evaluate => do
    let l ← exprCompare fuel evaluate
    exprAndRest fuel evaluate l

/-- The conjunctions after the first. -/
def exprAndRest : Nat → Bool → ExprValue → ExprM ExprValue
  | 0, _, l => pure l
  | fuel + 1, evaluate, l => do
    if ← nextIs "&" then
      let r ← exprCompare fuel (evaluate && !l.isNull)
      let l := if l.isNull || r.isNull then .int 0 else l
      exprAndRest fuel evaluate l
    else pure l

/-- Reads comparisons. -/
def exprCompare : Nat → Bool → ExprM ExprValue
  | 0, _ => exprFail "expression too deep" 2
  | fuel + 1, evaluate => do
    let l ← exprSum fuel evaluate
    exprCompareRest fuel evaluate l

/-- The comparisons after the first operand. -/
def exprCompareRest : Nat → Bool → ExprValue → ExprM ExprValue
  | 0, _, l => pure l
  | fuel + 1, evaluate, l => do
    let ops : List (String × (Ordering → Bool)) :=
      [("<", (· == .lt)), ("<=", (· != .gt)), ("=", (· == .eq)), ("==", (· == .eq)),
       ("!=", (· != .eq)), (">=", (· != .lt)), (">", (· == .gt))]
    match ← get with
    | a :: rest =>
      match ops.find? (·.1 == a) with
      | some (_, test) =>
        set rest
        let r ← exprSum fuel evaluate
        let v : ExprValue := if evaluate then .int (if test (compareValues l r) then 1 else 0) else .int 0
        exprCompareRest fuel evaluate v
      | none => pure l
    | [] => pure l

/-- Reads sums and differences. -/
def exprSum : Nat → Bool → ExprM ExprValue
  | 0, _ => exprFail "expression too deep" 2
  | fuel + 1, evaluate => do
    let l ← exprProduct fuel evaluate
    exprSumRest fuel evaluate l

/-- The terms after the first. -/
def exprSumRest : Nat → Bool → ExprValue → ExprM ExprValue
  | 0, _, l => pure l
  | fuel + 1, evaluate, l => do
    let plus ← nextIs "+"
    let minus ← if plus then pure false else nextIs "-"
    if plus || minus then
      let r ← exprProduct fuel evaluate
      if !evaluate then exprSumRest fuel evaluate l
      else
        match l.toInt?, r.toInt? with
        | some a, some b => exprSumRest fuel evaluate (.int (if plus then a + b else a - b))
        | _, _ => exprFail "non-integer argument" 2
    else pure l

/-- Reads products, quotients and remainders. -/
def exprProduct : Nat → Bool → ExprM ExprValue
  | 0, _ => exprFail "expression too deep" 2
  | fuel + 1, evaluate => do
    let l ← exprColon fuel evaluate
    exprProductRest fuel evaluate l

/-- The factors after the first. -/
def exprProductRest : Nat → Bool → ExprValue → ExprM ExprValue
  | 0, _, l => pure l
  | fuel + 1, evaluate, l => do
    let op ← if ← nextIs "*" then pure (some '*') else if ← nextIs "/" then pure (some '/')
      else if ← nextIs "%" then pure (some '%') else pure none
    match op with
    | none => pure l
    | some o =>
      let r ← exprColon fuel evaluate
      if !evaluate then exprProductRest fuel evaluate l
      else
        match l.toInt?, r.toInt? with
        | some a, some b =>
          if o != '*' && b == 0 then exprFail "division by zero" 2
          else exprProductRest fuel evaluate (.int (if o == '*' then a * b else if o == '/' then a.tdiv b else a.tmod b))
        | _, _ => exprFail "non-integer argument" 2

/-- Reads `:` matches. -/
def exprColon : Nat → Bool → ExprM ExprValue
  | 0, _ => exprFail "expression too deep" 2
  | fuel + 1, evaluate => do
    let l ← exprPrimary fuel evaluate
    exprColonRest fuel evaluate l

/-- The matches after the first operand. -/
def exprColonRest : Nat → Bool → ExprValue → ExprM ExprValue
  | 0, _, l => pure l
  | fuel + 1, evaluate, l => do
    if ← nextIs ":" then
      let r ← exprPrimary fuel evaluate
      if !evaluate then exprColonRest fuel evaluate l
      else
        match colonMatch l.text r.text with
        | .ok v => exprColonRest fuel evaluate v
        | .error e => throw e
    else pure l

/-- Reads a primary. -/
def exprPrimary : Nat → Bool → ExprM ExprValue
  | 0, _ => exprFail "expression too deep" 2
  | fuel + 1, evaluate => do
    let args ← get
    match args with
    | [] => exprFail "missing argument" 2
    | a :: rest =>
      if a == "+" then
        match rest with
        | t :: more => do set more; pure (.str t)
        | [] => exprFail ("syntax error: missing argument after " ++ quoteArg a) 2
      else if a == "length" && !rest.isEmpty then do
        set rest
        let v ← exprPrimary fuel evaluate
        pure (.int v.text.length)
      else if a == "match" && !rest.isEmpty then do
        set rest
        let l ← exprPrimary fuel evaluate
        let r ← exprPrimary fuel evaluate
        if evaluate then
          match colonMatch l.text r.text with
          | .ok v => pure v
          | .error e => throw e
        else pure l
      else if a == "index" && !rest.isEmpty then do
        set rest
        let l ← exprPrimary fuel evaluate
        let r ← exprPrimary fuel evaluate
        let cs := r.text.toList
        let pos := l.text.toList.findIdx? (cs.contains ·)
        pure (.int (((pos.map (· + 1)).getD 0 : Nat) : Int))
      else if a == "substr" && !rest.isEmpty then do
        set rest
        let l ← exprPrimary fuel evaluate
        let i1 ← exprPrimary fuel evaluate
        let i2 ← exprPrimary fuel evaluate
        match i1.toInt?, i2.toInt? with
        | some p, some n =>
          let len := l.text.length
          if p ≤ 0 || n ≤ 0 || p > len then pure (.str "")
          else pure (.str (String.ofList ((l.text.toList.drop (p.toNat - 1)).take n.toNat)))
        | _, _ => pure (.str "")
      else if a == "(" then do
        set rest
        let v ← exprOr fuel evaluate
        match ← get with
        | ")" :: more => do set more; pure v
        | [] => exprFail ("syntax error: expecting \x27)\x27 after " ++ quoteArg (args.getLastD a)) 2
        | b :: _ => exprFail ("syntax error: expecting \x27)\x27 instead of " ++ quoteArg b) 2
      else if a == ")" then exprFail "syntax error: unexpected \x27)\x27" 2
      else do
        set rest
        pure (.str a)

end

/-- `expr`: evaluates an expression and writes its value. -/
def expr (inv : Invocation) : Completion :=
  let args := match inv.args with
    | "--" :: rest => rest
    | a => a
  if args.isEmpty then inv.finish 2 "" (missingOperand inv)
  else
    -- the argument before a missing one, for messages
    let fuel := 4 * args.length + 8
    match (exprOr fuel true).run args with
    | .error (msg, status) =>
      let msg := if msg == "missing argument" then
          "syntax error: missing argument after " ++ quoteArg (args.getLastD "")
        else msg
      inv.finish status "" (inv.message msg)
    | .ok (v, rest) =>
      match rest with
      | a :: _ => inv.finish 2 "" (inv.message ("syntax error: unexpected argument " ++ quoteArg a))
      | [] => inv.finish (if v.isNull then 1 else 0) (v.text ++ "\n") ""

end Regress.Shell
