import Regress.FileTree

/-!
# Conditions of `test`

The language of `test` and `[`: unary tests on strings and files, binary comparisons of strings
and integers, `!`, `-a`, `-o` and parentheses.

* **Counting first.** With three arguments whose middle one is a binary operator, that
  comparison is the whole condition. With three or four arguments wrapped in `(` and `)` the
  parentheses go; with a leading `!` the rest is read again and the result negated.
* **Grammar.** Otherwise `-o` binds loosest, then `-a`, then `!`. A unary operator followed by
  one word, or by two of which the first is not a binary operator, is read as an operand: the
  words around it decide. A primary is a parenthesized condition, a unary test, a comparison
  when the next word is a binary operator, or a word that is true when it is not empty.
* **Errors.** Words left after the condition report the last word read as an unexpected
  operator; a missing operand, a missing `)` and a number that is not one are errors too.
  Integers are decimal, with blanks around them and a sign allowed, and must fit in 64 bits.

The `test` of bash has the same rules and more operators (`-v` and `-R` for variables, `-o`
for an option, `==`), and says its errors in its own words.
-/

namespace Regress.Shell

/-- An operator of `test`. -/
inductive TestOp where
  | unary (letter : Char)
  | binary (name : String)
  | negation
  | conjunction
  | disjunction
  | openParen
  | closeParen
  deriving Repr, DecidableEq, Inhabited

/-- The operator a word is, if any. -/
def testOp? (s : String) : Option TestOp :=
  match s.toList with
  | ['-', c] =>
    if "rwxefdcbpugkstznhLOGS".toList.contains c then some (.unary c)
    else if c == 'a' then some .conjunction
    else if c == 'o' then some .disjunction
    else none
  | ['!'] => some .negation
  | ['('] => some .openParen
  | [')'] => some .closeParen
  | _ =>
    if ["=", "!=", "<", ">", "-eq", "-ne", "-ge", "-gt", "-le", "-lt", "-nt", "-ot", "-ef"].contains s
    then some (.binary s) else none

/-- Whether a word is a binary operator. -/
def isBinaryWord (s : String) : Bool :=
  match testOp? s with
  | some (.binary _) => true
  | _ => false

/-- What a word of a condition is read as where it stands: an operator, an operand, or the
end. -/
inductive TestToken where
  | done
  | operand
  | op (o : TestOp)
  deriving Repr, DecidableEq, Inhabited

/-- Reads the word at a position. A unary operator or `!` is an operand when it is the last
word, or when two words follow and the first of them is a binary operator; a `(` is an operand
when it is the last word. -/
def tokenAt (args : Array String) (i : Nat) : TestToken :=
  match args[i]? with
  | none => .done
  | some s =>
    match testOp? s with
    | none => .operand
    | some o =>
      let operandLike := match o with
        | .unary _ | .negation =>
          match args[i + 1]? with
          | none => true
          | some next => args[i + 2]?.isSome && isBinaryWord next
        | .openParen => args[i + 1]?.isNone
        | _ => false
      if operandLike then .operand else .op o

/-- Reads a decimal integer of `test`: blanks around it and a sign are allowed, and it must
fit in 64 bits. -/
def testInteger (s : String) : Except String Int :=
  let isBlank (c : Char) : Bool := c == ' ' || c == '\t' || c == '\n' || c == '\x0b' || c == '\x0c' || c == '\r'
  let cs := s.toList.dropWhile isBlank
  let (negative, cs) := match cs with
    | '-' :: r => (true, r)
    | '+' :: r => (false, r)
    | r => (false, r)
  let digits := cs.takeWhile Char.isDigit
  let rest := (cs.drop digits.length).dropWhile isBlank
  let v := digits.foldl (fun (n : Nat) d => n * 10 + (d.toNat - 48)) 0
  let limit := if negative then 9223372036854775808 else 9223372036854775807
  if digits.isEmpty || !rest.isEmpty || v > limit then .error ("Illegal number: " ++ s)
  else .ok (if negative then -(v : Int) else v)

/-- What the file tests see of a path: the node there, if any. -/
abbrev FileLookup := String → Option Node

/-- A unary test on a word. -/
def unaryTest (look : FileLookup) (c : Char) (arg : String) : Bool :=
  let node := look arg
  if c == 'n' then !arg.isEmpty
  else if c == 'z' then arg.isEmpty
  else if c == 'e' || c == 'r' || c == 'w' then node.isSome
  else if c == 'f' then match node with
    | some (.file _ _) => true
    | _ => false
  else if c == 'd' then node == some .dir
  else if c == 's' then match node with
    | some (.file content _) => !content.isEmpty
    | some .dir => true
    | none => false
  else if c == 'x' then match node with
    | some (.file _ x) => x
    | some .dir => true
    | none => false
  else false

/-- A binary comparison. -/
def binaryTest (op a b : String) : Except String Bool := do
  let num (f : Int → Int → Bool) : Except String Bool := do
    let x ← testInteger a
    let y ← testInteger b
    pure (f x y)
  if op == "=" then pure (a == b)
  else if op == "!=" then pure (a != b)
  else if op == "<" then pure (compare a.toUTF8.toList b.toUTF8.toList == .lt)
  else if op == ">" then pure (compare a.toUTF8.toList b.toUTF8.toList == .gt)
  else if op == "-eq" then num (· == ·)
  else if op == "-ne" then num (· != ·)
  else if op == "-ge" then num (· ≥ ·)
  else if op == "-gt" then num (· > ·)
  else if op == "-le" then num (· ≤ ·)
  else if op == "-lt" then num (· < ·)
  else if op == "-ef" then pure (a == b)
  else pure false

/-- A step of reading a condition: the position of the last word read is threaded through. -/
abbrev TestM := StateT Nat (Except String)

/-- The error for a missing operand, naming the operator when there is one. -/
def argumentExpected {α : Type} (op : String) : TestM α :=
  throw (if op.isEmpty then "argument expected" else op ++ ": argument expected")

mutual

/-- Reads `-o` alternatives, starting at the token `t` at the current position. -/
def testOr (look : FileLookup) (args : Array String) : Nat → TestToken → TestM Bool
  | 0, _ => throw "expression too deep"
  | fuel + 1, t => do
    let a ← testAnd look args fuel t
    let pos ← get
    if tokenAt args (pos + 1) == .op .disjunction then
      set (pos + 2)
      let b ← testOr look args fuel (tokenAt args (pos + 2))
      pure (a || b)
    else pure a

/-- Reads `-a` conjunctions. -/
def testAnd (look : FileLookup) (args : Array String) : Nat → TestToken → TestM Bool
  | 0, _ => throw "expression too deep"
  | fuel + 1, t => do
    let a ← testNot look args fuel t
    let pos ← get
    if tokenAt args (pos + 1) == .op .conjunction then
      set (pos + 2)
      let b ← testAnd look args fuel (tokenAt args (pos + 2))
      pure (a && b)
    else pure a

/-- Reads negations and a primary. -/
def testNot (look : FileLookup) (args : Array String) : Nat → TestToken → TestM Bool
  | 0, _ => throw "expression too deep"
  | fuel + 1, t =>
    if t == .op .negation then do
      let pos ← get
      set (pos + 1)
      let v ← testNot look args fuel (tokenAt args (pos + 1))
      pure !v
    else testPrimary look args fuel t

/-- Reads a primary. -/
def testPrimary (look : FileLookup) (args : Array String) : Nat → TestToken → TestM Bool
  | 0, _ => throw "expression too deep"
  | fuel + 1, t => do
    let pos ← get
    match t with
    | .done => argumentExpected ""
    | .op .openParen =>
      set (pos + 1)
      let v ← testOr look args fuel (tokenAt args (pos + 1))
      let pos' ← get
      set (pos' + 1)
      if tokenAt args (pos' + 1) != .op .closeParen then throw "closing paren expected"
      pure v
    | .op (.unary c) =>
      match args[pos + 1]? with
      | none => argumentExpected (args[pos]?.getD "")
      | some arg =>
        set (pos + 1)
        pure (unaryTest look c arg)
    | _ =>
      let word := args[pos]?.getD ""
      match tokenAt args (pos + 1) with
      | .op (.binary op) =>
        match args[pos + 2]? with
        | none => argumentExpected op
        | some other =>
          set (pos + 2)
          match binaryTest op word other with
          | .ok v => pure v
          | .error e => throw e
      | _ => pure !word.isEmpty

end

/-- Reads a whole condition from the words at `start`: its value, or the error when words are
left after it. -/
def testFrom (look : FileLookup) (args : Array String) (start : Nat) (t : TestToken) :
    Except String Bool :=
  match (testOr look args (4 * args.size + 8) t).run start with
  | .error e => .error e
  | .ok (v, pos) =>
    if pos + 1 < args.size then .error ((args[pos]?.getD "") ++ ": unexpected operator")
    else .ok v

/-- Evaluates the words of `test` by their count first, then by the grammar; `negated` tells
that a leading `!` was taken off, and a second one does not undo it. No words is false. -/
def conditionFrom (look : FileLookup) (negated : Bool) : Nat → List String → Except String Bool
  | 0, _ => .ok false
  | fuel + 1, args =>
    let arr := args.toArray
    let result (v : Except String Bool) : Except String Bool := v.map fun b => if negated then !b else b
    let grammar : Except String Bool := result (testFrom look arr 0 (tokenAt arr 0))
    match args with
    | [] => .ok negated
    | [a, op, c] =>
      if isBinaryWord op then result (testFrom look arr 0 .operand)
      else if a == "(" && c == ")" then result (testFrom look #[op] 0 (tokenAt #[op] 0))
      else if a == "!" then conditionFrom look true fuel [op, c]
      else grammar
    | [a, b, c, d] =>
      if a == "(" && d == ")" then result (testFrom look #[b, c] 0 (tokenAt #[b, c] 0))
      else if a == "!" then conditionFrom look true fuel [b, c, d]
      else grammar
    | _ => grammar

/-- Evaluates the words of `test`. -/
def evalCondition (look : FileLookup) (args : List String) : Except String Bool :=
  conditionFrom look false (args.length + 1) args

/-! ## The test of bash -/

/-- The unary operators of bash's `test`. -/
def bashUnaryOps : List String :=
  ["-a", "-b", "-c", "-d", "-e", "-f", "-g", "-h", "-k", "-p", "-r", "-s", "-t", "-u", "-w", "-x",
    "-G", "-L", "-N", "-O", "-S", "-z", "-n", "-o", "-v", "-R"]

/-- The binary operators of bash's `test`. -/
def bashBinaryOps : List String :=
  ["=", "==", "!=", "<", ">", "-eq", "-ne", "-lt", "-le", "-gt", "-ge", "-nt", "-ot", "-ef"]

/-- Reads an integer of bash's `test`: blanks around it and a sign are allowed, and it must fit
in 64 bits. -/
def bashTestInteger (s : String) : Except String Int :=
  match testInteger s with
  | .ok v => .ok v
  | .error _ => .error (s ++ ": integer expression expected")

/-- A unary test of bash; `isSet` tells which variables are set, for `-v`. -/
def bashUnaryTest (look : FileLookup) (isSet : String → Bool) (op arg : String) : Bool :=
  match op.toList with
  | ['-', 'v'] => isSet arg
  | ['-', 'a'] => unaryTest look 'e' arg
  | ['-', 'o'] | ['-', 't'] | ['-', 'N'] | ['-', 'R'] | ['-', 'k'] | ['-', 'p'] | ['-', 'b']
  | ['-', 'c'] | ['-', 'g'] | ['-', 'u'] => false
  | ['-', 'G'] | ['-', 'O'] => (look arg).isSome
  | ['-', c] => unaryTest look c arg
  | _ => false

/-- A binary test of bash: `==` is `=`, and the integers are read as bash reads them. -/
def bashBinaryTest (op a b : String) : Except String Bool := do
  let num (f : Int → Int → Bool) : Except String Bool := do
    let x ← bashTestInteger a
    let y ← bashTestInteger b
    pure (f x y)
  if op == "=" || op == "==" then pure (a == b)
  else if op == "!=" then pure (a != b)
  else if op == "<" then pure (compare a.toUTF8.toList b.toUTF8.toList == .lt)
  else if op == ">" then pure (compare a.toUTF8.toList b.toUTF8.toList == .gt)
  else if op == "-eq" then num (· == ·)
  else if op == "-ne" then num (· != ·)
  else if op == "-ge" then num (· ≥ ·)
  else if op == "-gt" then num (· > ·)
  else if op == "-le" then num (· ≤ ·)
  else if op == "-lt" then num (· < ·)
  else if op == "-ef" then pure (a == b)
  else pure false

mutual

/-- Reads `-o` alternatives of bash's `test` from the word at `pos`: the value and the place
after. -/
def bashTestOr (look : FileLookup) (isSet : String → Bool) (args : Array String) :
    Nat → Nat → Except String (Bool × Nat)
  | 0, _ => .error "expression too deep"
  | fuel + 1, pos => do
    let (a, p) ← bashTestAnd look isSet args fuel pos
    if args[p]? == some "-o" then
      let (b, q) ← bashTestOr look isSet args fuel (p + 1)
      pure (a || b, q)
    else pure (a, p)

/-- Reads `-a` conjunctions. -/
def bashTestAnd (look : FileLookup) (isSet : String → Bool) (args : Array String) :
    Nat → Nat → Except String (Bool × Nat)
  | 0, _ => .error "expression too deep"
  | fuel + 1, pos => do
    let (a, p) ← bashTestTerm look isSet args fuel pos
    if args[p]? == some "-a" then
      let (b, q) ← bashTestAnd look isSet args fuel (p + 1)
      pure (a && b, q)
    else pure (a, p)

/-- Reads a term: a negation, a group, a binary test, a unary test or a word. -/
def bashTestTerm (look : FileLookup) (isSet : String → Bool) (args : Array String) :
    Nat → Nat → Except String (Bool × Nat)
  | 0, _ => .error "expression too deep"
  | fuel + 1, pos =>
    match args[pos]? with
    | none => .error "argument expected"
    | some w =>
      if w == "!" then do
        let (v, p) ← bashTestTerm look isSet args fuel (pos + 1)
        pure (!v, p)
      else if w == "(" then do
        let (v, p) ← bashTestOr look isSet args fuel (pos + 1)
        if args[p]? == some ")" then pure (v, p + 1) else .error "\x60)\x27 expected"
      else if pos + 2 < args.size && bashBinaryOps.contains (args[pos + 1]?.getD "") then do
        let v ← bashBinaryTest (args[pos + 1]?.getD "") w (args[pos + 2]?.getD "")
        pure (v, pos + 3)
      else if w.length == 2 && w.startsWith "-" then
        if bashUnaryOps.contains w then
          match args[pos + 1]? with
          | some arg => .ok (bashUnaryTest look isSet w arg, pos + 2)
          | none => .error (w ++ ": argument expected")
        else .error (w ++ ": unary operator expected")
      else .ok (!w.isEmpty, pos + 1)

end

/-- Evaluates the words of bash's `test`: by their count first, as POSIX says, then by the
grammar of expressions. The message of an error. -/
def bashCondition (look : FileLookup) (isSet : String → Bool) (args : List String) :
    Except String Bool :=
  let two (a b : String) : Except String Bool :=
    if a == "!" then .ok b.isEmpty
    else if bashUnaryOps.contains a then .ok (bashUnaryTest look isSet a b)
    else .error (a ++ ": unary operator expected")
  let three (a b c : String) : Except String Bool :=
    if bashBinaryOps.contains b then bashBinaryTest b a c
    else if b == "-a" then .ok (!a.isEmpty && !c.isEmpty)
    else if b == "-o" then .ok (!a.isEmpty || !c.isEmpty)
    else if a == "!" then (two b c).map (!·)
    else if a == "(" && c == ")" then .ok !b.isEmpty
    else .error (b ++ ": binary operator expected")
  let grammar : Except String Bool :=
    let arr := args.toArray
    match bashTestOr look isSet arr (4 * arr.size + 8) 0 with
    | .ok (v, p) => if p < arr.size then .error "too many arguments" else .ok v
    | .error e => .error e
  match args with
  | [] => .ok false
  | [a] => .ok !a.isEmpty
  | [a, b] => two a b
  | [a, b, c] => three a b c
  | [a, b, c, d] =>
    if a == "!" then (three b c d).map (!·)
    else if a == "(" && d == ")" then two b c
    else grammar
  | _ => grammar

end Regress.Shell
