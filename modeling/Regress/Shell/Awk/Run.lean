import Regress.Shell.Awk.Machine

/-!
# Running awk programs

A program runs its `BEGIN` rules, then reads its input record by record and runs the rules
whose patterns hold for each, then runs its `END` rules. Expressions and statements are
evaluated by structural recursion on a bound of how deep calls may nest, and loops turn a
bounded number of times.

* **Order.** Operands are evaluated left to right. An assignment finds its target, then
  evaluates its value; one that does arithmetic reads the target only after that, so
  `x += x++` adds to the incremented `x`. `&&`, `||` and `?:` evaluate only what decides them.
* **Assignment targets** (variables, fields, elements) are found once, so that an element with
  side effects in its subscript, updated by `+=` or `++`, is updated where it was found.
* **Calls.** Arguments that name arrays pass the array; a variable not yet set, passed where
  the function uses an array, becomes an array shared with it. The other arguments pass their
  values, and missing ones are the function's own unset variables.
* **`getline`** reads the next record of the main input (counting `NR` and `FNR`), of a file
  or of a command (counting neither) into the record or a target, and gives 1, 0 at the end,
  or -1 when the file cannot be opened.
* **Ranges.** A range rule is active from a record its first pattern holds for up to one its
  second holds for, both included; the second is tried on the first record too.
* **`exit`** in `BEGIN` or a record's rules goes on to the `END` rules; in them, it ends the
  program. An error at run time ends it at once. Either way outputs are closed and output
  passed on.
-/

namespace Regress.Awk

open Regress.Shell

/-- The most times a loop turns, or records are read, before the program counts as running on
without end. -/
def loopLimit : Nat := 1000000

/-- How deep calls of functions and expressions may nest. -/
def depthLimit : Nat := 4000

/-- Stops a program that runs on without end. -/
def runaway {α : Type} : AwkM α :=
  liftShell (throw .exhausted)

/-- The number 1 for true and 0 for false. -/
def truth (b : Bool) : Value :=
  .num (if b then 1 else 0)

/-- An arithmetic operator on numbers. -/
def ArithOp.apply : ArithOp → Float → Float → Float
  | .add, a, b => a + b
  | .sub, a, b => a - b
  | .mul, a, b => a * b
  | .div, a, b => a / b
  | .mod, a, b => floatMod a b
  | .pow, a, b => Float.pow a b

mutual

/-- The names an expression uses as arrays. -/
def Expr.arrayUses : Nat → Expr → List String
  | 0, _ => []
  | fuel + 1, e =>
    let within (es : List Expr) : List String := es.flatMap (Expr.arrayUses fuel)
    match e with
    | .field i => Expr.arrayUses fuel i
    | .element a subs => a :: within subs
    | .member subs a => a :: within subs
    | .assign _ t v => within [t, v]
    | .cond t a b => within [t, a, b]
    | .and a b | .or a b | .arith _ a b | .compare _ a b | .matches _ a b | .concat a b => within [a, b]
    | .not a | .negate a | .plus a | .incr _ _ a => Expr.arrayUses fuel a
    | .call _ args => within args
    | .builtin .split (s :: .var a :: rest) => a :: within (s :: rest)
    | .builtin _ args => within args
    | .getline t => within t.toList
    | .getlineFile f t => within (f :: t.toList)
    | .getlineCommand c t => within (c :: t.toList)
    | .group items => within items
    | _ => []

/-- The names a statement uses as arrays. -/
def Stmt.arrayUses : Nat → Stmt → List String
  | 0, _ => []
  | fuel + 1, s =>
    let exprs (es : List Expr) : List String := es.flatMap (Expr.arrayUses fuel)
    let output (d : Option Output) : List String := match d with
      | some (.file e) | some (.append e) | some (.pipe e) => exprs [e]
      | none => []
    match s with
    | .expr e => exprs [e]
    | .print items d | .printf items d => exprs items ++ output d
    | .ifElse t a b => exprs [t] ++ Stmt.arrayUses fuel a ++ (b.toList.flatMap (Stmt.arrayUses fuel))
    | .whileLoop t body | .doLoop body t => exprs [t] ++ Stmt.arrayUses fuel body
    | .forLoop i t st body => exprs (i.toList ++ t.toList ++ st.toList) ++ Stmt.arrayUses fuel body
    | .forIn _ a body => a :: Stmt.arrayUses fuel body
    | .block body => body.flatMap (Stmt.arrayUses fuel)
    | .exit e | .ret e => exprs e.toList
    | .delete a subs => a :: exprs (subs.getD [])
    | _ => []

end

/-- Whether a function uses a parameter as an array. -/
def Function.usesAsArray (f : Function) (param : String) : Bool :=
  (Stmt.arrayUses depthLimit f.body).contains param

/-- Where a value is kept: a variable, a field, or an element of a table. -/
inductive Ref where
  | var (name : String)
  | field (i : Nat)
  | element (table : Nat) (key : Key)
  deriving Inhabited

/-- The value kept at a place. -/
def Ref.read : Ref → AwkM Value
  | .var n => varValue n
  | .field i => fieldValue i
  | .element id key => withTable id (·.get key)

/-- Keeps a value at a place. -/
def Ref.write : Ref → Value → AwkM Unit
  | .var n, v => setVar n v
  | .field i, v => setField i v
  | .element id key, v => withTable id fun t => (t.set key v, ())

/-- The field a value names: its number truncated; a negative one is an error. -/
def fieldIndex (v : Value) : AwkM Nat := do
  let i := countOf v.toNum
  if i < 0 then runtimeError ("negative field index $" ++ toString i) else pure i.toNat

/-- A number for `rand` from the state of the generator, and the next state. -/
def nextRandom (state : Nat) : Float × Nat :=
  let next := (state * 1103515245 + 12345) % 2147483648
  (Float.ofNat next / 2147483648, next)

/-- The state of the generator a seed starts. -/
def seedState (seed : Float) : Nat :=
  (countOf seed).natAbs % 2147483648

/-- Puts a record `getline` read into its target, or the record when there is none, and gives
1; 0 at the end of the input, -1 when it could not be opened. -/
def readInto (ref : Option Ref) (got : Option (Option String)) : AwkM Value := do
  match got with
  | none => pure (.num (-1))
  | some none => pure (.num 0)
  | some (some text) =>
    match ref with
    | some r => r.write (Value.ofInput text)
    | none => setRecord text
    pure (.num 1)

mutual

/-- Evaluates an expression. -/
def eval (host : Host) : Nat → Expr → AwkM Value
  | 0, _ => runtimeError "function call nesting too deep"
  | fuel + 1, e =>
    match e with
    | .number x => pure (.num x)
    | .text s => pure (.str s)
    | .regex src => do
      let r ← dynamicRegex src
      pure (truth (r.found (← get).record))
    | .var n => varValue n
    | .field i => do fieldValue (← fieldIndex (← eval host fuel i))
    | .element a subs => do
      let key ← subscriptKey host fuel subs
      let id ← arrayId a
      withTable id (·.get key)
    | .member subs a => do
      let key ← subscriptKey host fuel subs
      let id ← arrayId a
      pure (truth (← withTable id (·.contains key)))
    | .assign op target value => do
      let ref ← resolve host fuel target
      match op with
      | none =>
        let v ← eval host fuel value
        ref.write v
        pure v
      | some op =>
        let b ← eval host fuel value
        let old ← ref.read
        let v := Value.num (op.apply old.toNum b.toNum)
        ref.write v
        pure v
    | .cond t a b => do
      if (← eval host fuel t).isTrue then eval host fuel a else eval host fuel b
    | .and a b => do
      if (← eval host fuel a).isTrue then pure (truth (← eval host fuel b).isTrue) else pure (truth false)
    | .or a b => do
      if (← eval host fuel a).isTrue then pure (truth true) else pure (truth (← eval host fuel b).isTrue)
    | .not a => do pure (truth !(← eval host fuel a).isTrue)
    | .arith op a b => do
      let x ← eval host fuel a
      let y ← eval host fuel b
      pure (.num (op.apply x.toNum y.toNum))
    | .compare op a b => do
      let x ← eval host fuel a
      let y ← eval host fuel b
      pure (truth (op.holds (compareValues (← convfmt) x y)))
    | .matches negated subject pattern => do
      let text ← textOf (← eval host fuel subject)
      let r ← regexOf host fuel pattern
      pure (truth (r.found text != negated))
    | .concat a b => do
      let x ← textOf (← eval host fuel a)
      let y ← textOf (← eval host fuel b)
      pure (.str (x ++ y))
    | .negate a => do pure (.num (-(← eval host fuel a).toNum))
    | .plus a => do pure (.num (← eval host fuel a).toNum)
    | .incr pre up target => do
      let ref ← resolve host fuel target
      let old := (← ref.read).toNum
      let new := if up then old + 1 else old - 1
      ref.write (.num new)
      pure (.num (if pre then new else old))
    | .call name args => callFunction host fuel name args
    | .builtin f args => callBuiltin host fuel f args
    | .getline target => do
      let ref ← match target with
        | some t => some <$> resolve host fuel t
        | none => pure none
      match ← nextMainRecord loopLimit with
      | none => pure (.num 0)
      | some text =>
        countUp "NR"
        countUp "FNR"
        match ref with
        | some r => r.write (Value.ofInput text)
        | none => setRecord text
        pure (.num 1)
    | .getlineFile file target => do
      let ref ← match target with
        | some t => some <$> resolve host fuel t
        | none => pure none
      let name ← textOf (← eval host fuel file)
      readInto ref (← inputRecord host name false)
    | .getlineCommand command target => do
      let name ← textOf (← eval host fuel command)
      let ref ← match target with
        | some t => some <$> resolve host fuel t
        | none => pure none
      readInto ref (← inputRecord host name true)
    | .group items => do
      let texts ← items.mapM fun i => do textOf (← eval host fuel i)
      pure (.str ((← globalText "SUBSEP").intercalate texts))

/-- Finds where an assignment target keeps its value. -/
def resolve (host : Host) : Nat → Expr → AwkM Ref
  | 0, _ => runtimeError "function call nesting too deep"
  | fuel + 1, e =>
    match e with
    | .var n => pure (.var n)
    | .field i => do pure (.field (← fieldIndex (← eval host fuel i)))
    | .element a subs => do
      let key ← subscriptKey host fuel subs
      pure (.element (← arrayId a) key)
    | _ => runtimeError "assignment to a value that is not a variable"

/-- The key of the subscripts of an element: one value's key, or the texts of several joined
by `SUBSEP`. -/
def subscriptKey (host : Host) : Nat → List Expr → AwkM Key
  | 0, _ => runtimeError "function call nesting too deep"
  | fuel + 1, subs =>
    match subs with
    | [e] => do keyOf (← eval host fuel e)
    | _ => do
      let texts ← subs.mapM fun e => do textOf (← eval host fuel e)
      pure (.text ((← globalText "SUBSEP").intercalate texts))

/-- The regular expression an operand of `~` stands for: a constant one, or the text of any
other value. -/
def regexOf (host : Host) : Nat → Expr → AwkM Regex
  | 0, _ => runtimeError "function call nesting too deep"
  | fuel + 1, e =>
    match e with
    | .regex src => dynamicRegex src
    | _ => do dynamicRegex (← textOf (← eval host fuel e))

/-- Calls a function of the program. -/
def callFunction (host : Host) : Nat → String → List Expr → AwkM Value
  | 0, _, _ => runtimeError "function call nesting too deep"
  | fuel + 1, name, args => do
    let some f := (← get).program.functions.find? (·.name == name)
      | runtimeError ("function " ++ name ++ " never defined")
    let mut scalars : List (String × Value) := []
    let mut arrays : List (String × Nat) := []
    for i in [0:f.params.length] do
      let p := f.params.getD i ""
      match args[i]? with
      | some (.var n) =>
        if (← isArray n) then arrays := (p, ← arrayId n) :: arrays
        else
          let v ← varValue n
          match v with
          | .uninit =>
            if f.usesAsArray p then arrays := (p, ← arrayId n) :: arrays
            else scalars := (p, v) :: scalars
          | _ => scalars := (p, v) :: scalars
      | some e => scalars := (p, ← eval host fuel e) :: scalars
      | none => pure ()
    modify fun m => { m with frames := { params := f.params, scalars, arrays } :: m.frames }
    let pop : AwkM Unit := modify fun m => { m with frames := m.frames.drop 1 }
    let result ← tryCatch (do exec host fuel f.body; pure Value.uninit) fun
      | .ret v => pure v
      | flow => do
        pop
        throw flow
    pop
    pure result

/-- Calls a function of awk. -/
def callBuiltin (host : Host) : Nat → Builtin → List Expr → AwkM Value
  | 0, _, _ => runtimeError "function call nesting too deep"
  | fuel + 1, f, args => do
    let number (e : Expr) : AwkM Float := do pure (← eval host fuel e).toNum
    let text (e : Expr) : AwkM String := do textOf (← eval host fuel e)
    match f, args with
    | .length, [] => pure (.num (Float.ofNat (← get).record.length))
    | .length, [.var n] =>
      if (← isArray n) then pure (.num (Float.ofNat (← withTable (← arrayId n) fun t => (t, t.count))))
      else pure (.num (Float.ofNat (← text (.var n)).length))
    | .length, [e] => pure (.num (Float.ofNat (← text e).length))
    | .substr, [s, m] => do
      let s ← text s
      pure (.str (substring s (← number m) none))
    | .substr, [s, m, n] => do
      let s ← text s
      let m ← number m
      pure (.str (substring s m (some (← number n))))
    | .index, [s, t] => do
      let s ← text s
      pure (.num (Float.ofNat (indexOf s (← text t))))
    | .split, s :: .var a :: rest => do
      let s ← text s
      let sep ← match rest with
        | [] => currentFieldSep
        | [.regex src] => do pure (.regex (← dynamicRegex src))
        | e :: _ => do
          let fs ← text e
          match fieldSep fs with
          | .ok sep => pure sep
          | .error err => runtimeError ("regular expression compile failed (" ++ err ++ ")\n" ++ fs)
      let pieces := splitFields sep s
      setTable (← arrayId a) (Table.ofList (pieces.map Value.ofInput))
      pure (.num (Float.ofNat pieces.length))
    | .sub, re :: repl :: rest => substituteIn host fuel false re repl rest
    | .gsub, re :: repl :: rest => substituteIn host fuel true re repl rest
    | .match, [s, re] => do
      let s ← text s
      let r ← regexOf host fuel re
      let (start, len) := firstMatch r s
      setGlobal "RSTART" (.num (Float.ofNat start))
      setGlobal "RLENGTH" (.num (Float.ofInt len))
      pure (.num (Float.ofNat start))
    | .sprintf, fmt :: rest => do
      let f ← text fmt
      let fmtConv ← convfmt
      let vals ← rest.mapM fun e => eval host fuel e
      let (out, fault) := formatWith f (vals.map (·.toFormatArg fmtConv))
      match fault with
      | some .missing => runtimeError ("not enough arguments passed to sprintf(\"" ++ f ++ "\")")
      | some (.improper n) =>
        runtimeError ("improper conversion(number " ++ toString n ++ ") in sprintf(\"" ++ f ++ "\")")
      | none => pure (.str out)
    | .sin, [x] => pure (.num (Float.sin (← number x)))
    | .cos, [x] => pure (.num (Float.cos (← number x)))
    | .atan2, [y, x] => do
      let y ← number y
      pure (.num (Float.atan2 y (← number x)))
    | .exp, [x] => pure (.num (Float.exp (← number x)))
    | .log, [x] => pure (.num (Float.log (← number x)))
    | .sqrt, [x] => pure (.num (Float.sqrt (← number x)))
    | .int, [x] => pure (.num (truncate (← number x)))
    | .rand, [] => do
      let (x, state) := nextRandom (← get).randomState
      modify fun m => { m with randomState := state }
      pure (.num x)
    | .srand, seed => do
      let previous := (← get).seed
      let s ← match seed with
        | [e] => number e
        | _ => pure 0
      modify fun m => { m with seed := s, randomState := seedState s }
      pure (.num previous)
    | .tolower, [s] => pure (.str (mapLetters false (← text s)))
    | .toupper, [s] => pure (.str (mapLetters true (← text s)))
    | .system, [c] => do
      let c ← text c
      flushOut
      let (_, status) ← liftShell (host.command c none false)
      pure (.num (Float.ofNat status))
    | .close, [n] => do
      let n ← text n
      pure (.num (Float.ofInt (← closeStream host n)))
    | .fflush, _ => do
      flushOut
      pure (.num 0)
    | _, _ => pure .uninit

/-- `sub` and `gsub`: replaces the matches in the target, `$0` when none is given, and gives
how many were replaced. -/
def substituteIn (host : Host) : Nat → Bool → Expr → Expr → List Expr → AwkM Value
  | 0, _, _, _, _ => runtimeError "function call nesting too deep"
  | fuel + 1, global, re, repl, rest => do
    let r ← regexOf host fuel re
    let replText ← textOf (← eval host fuel repl)
    let ref ← resolve host fuel (rest.headD (.field (.number 0)))
    let old ← textOf (← ref.read)
    let (new, n) := substitute r replText global old
    if n > 0 then ref.write (.str new)
    pure (.num (Float.ofNat n))

/-- Runs a statement. -/
def exec (host : Host) : Nat → Stmt → AwkM Unit
  | 0, _ => runtimeError "function call nesting too deep"
  | fuel + 1, s =>
    match s with
    | .expr e => do
      let _ ← eval host fuel e
    | .print items dest => do
      let texts ← if items.isEmpty then pure [(← get).record]
        else items.mapM fun e => do outputText (← eval host fuel e)
      let ofs ← globalText "OFS"
      let ors ← globalText "ORS"
      let d ← destination host fuel dest
      writeDest d (ofs.intercalate texts ++ ors)
    | .printf items dest => do
      match items with
      | [] => pure ()
      | fmt :: rest =>
        let f ← textOf (← eval host fuel fmt)
        let vals ← rest.mapM fun e => eval host fuel e
        let fmtConv ← convfmt
        let d ← destination host fuel dest
        let (out, fault) := formatWith f (vals.map (·.toFormatArg fmtConv))
        writeDest d out
        match fault with
        | some .missing => runtimeError ("not enough arguments passed to printf(\"" ++ f ++ "\")")
        | some (.improper n) =>
          runtimeError ("improper conversion(number " ++ toString n ++ ") in printf(\"" ++ f ++ "\")")
        | none => pure ()
    | .ifElse t yes no => do
      if (← eval host fuel t).isTrue then exec host fuel yes
      else match no with
        | some n => exec host fuel n
        | none => pure ()
    | .whileLoop t body => do
      for _ in [0:loopLimit] do
        if !(← eval host fuel t).isTrue then return
        if !(← loopBody host fuel body) then return
      runaway
    | .doLoop body t => do
      for _ in [0:loopLimit] do
        if !(← loopBody host fuel body) then return
        if !(← eval host fuel t).isTrue then return
      runaway
    | .forLoop init test step body => do
      match init with
      | some i => let _ ← eval host fuel i
      | none => pure ()
      for _ in [0:loopLimit] do
        match test with
        | some t => if !(← eval host fuel t).isTrue then return
        | none => pure ()
        if !(← loopBody host fuel body) then return
        match step with
        | some st => let _ ← eval host fuel st
        | none => pure ()
      runaway
    | .forIn key array body => do
      let id ← arrayId array
      let keys ← withTable id (·.keys)
      for k in keys do
        setVar key (.str k)
        if !(← loopBody host fuel body) then return
    | .block body => do
      for st in body do
        exec host fuel st
    | .next => throw .next
    | .nextFile => throw .nextFile
    | .exit code => do
      match code with
      | some e =>
        let c := countOf (← eval host fuel e).toNum
        modify fun m => { m with exitCode := (c % 256).toNat }
      | none => pure ()
      throw .exit
    | .ret value => do
      let v ← match value with
        | some e => eval host fuel e
        | none => pure .uninit
      throw (.ret v)
    | .breakLoop => throw .breakLoop
    | .continueLoop => throw .continueLoop
    | .delete array subs => do
      let id ← arrayId array
      match subs with
      | none => setTable id {}
      | some subs =>
        let key ← subscriptKey host fuel subs
        withTable id fun t => (t.remove key, ())

/-- Runs the body of a loop: whether the loop goes on after it. -/
def loopBody (host : Host) : Nat → Stmt → AwkM Bool
  | 0, _ => runtimeError "function call nesting too deep"
  | fuel + 1, body =>
    tryCatch (do exec host fuel body; pure true) fun
      | .breakLoop => pure false
      | .continueLoop => pure true
      | flow => throw flow

/-- Where `print` and `printf` write. -/
def destination (host : Host) : Nat → Option Output → AwkM Dest
  | 0, _ => runtimeError "function call nesting too deep"
  | fuel + 1, dest =>
    match dest with
    | none => pure .stdout
    | some (.file e) => do pure (destOf (← textOf (← eval host fuel e)) .file)
    | some (.append e) => do pure (destOf (← textOf (← eval host fuel e)) .append)
    | some (.pipe e) => do pure (destOf (← textOf (← eval host fuel e)) .pipe)

end

/-- Runs the action of a rule; without one, writes the record. -/
def runAction (host : Host) (action : Option Stmt) : AwkM Unit := do
  match action with
  | some s => exec host depthLimit s
  | none => emit ((← get).record ++ (← globalText "ORS"))

/-- Runs the rules of a record: those whose patterns hold, ranges kept from record to
record. -/
def runRules (host : Host) (rules : List (Nat × Rule)) : AwkM Unit := do
  for (i, rule) in rules do
    match rule.pattern with
    | .begin | .finish => pure ()
    | .always => runAction host rule.action
    | .test e => if (← eval host depthLimit e).isTrue then runAction host rule.action
    | .range a b =>
      if (← get).activeRanges.contains i then
        if (← eval host depthLimit b).isTrue then
          modify fun m => { m with activeRanges := m.activeRanges.filter (· != i) }
        runAction host rule.action
      else if (← eval host depthLimit a).isTrue then
        if !(← eval host depthLimit b).isTrue then
          modify fun m => { m with activeRanges := i :: m.activeRanges }
        runAction host rule.action

/-- Reads the main input and runs the rules for each record. -/
def runRecords (host : Host) (rules : List (Nat × Rule)) : AwkM Unit := do
  for _ in [0:loopLimit] do
    match ← nextMainRecord loopLimit with
    | none => return
    | some text =>
      countUp "NR"
      countUp "FNR"
      setRecord text
      tryCatch (runRules host rules) fun
        | .next => pure ()
        | .nextFile => skipFile
        | flow => throw flow
  runaway

/-- Runs rules until `exit`: whether the program exited. -/
def untilExit (body : AwkM Unit) : AwkM Bool :=
  tryCatch (do body; pure false) fun
    | .exit => pure true
    | flow => throw flow

/-- Runs a program: `BEGIN`, the records when there are rules for them or `END` rules, and
`END`. -/
def runProgram (host : Host) : AwkM Unit := do
  let rules := (← get).program.rules.zipIdx.map fun (r, i) => (i, r)
  let isBegin (r : Rule) : Bool := match r.pattern with
    | .begin => true
    | _ => false
  let isEnd (r : Rule) : Bool := match r.pattern with
    | .finish => true
    | _ => false
  let begins := rules.filter (isBegin ·.2)
  let ends := rules.filter (isEnd ·.2)
  let mains := rules.filter fun (_, r) => !isBegin r && !isEnd r
  let exited ← untilExit (for (_, r) in begins do runAction host r.action)
  if mains.isEmpty && ends.isEmpty then return
  if !exited then
    let _ ← untilExit (runRecords host mains)
  let _ ← untilExit (for (_, r) in ends do runAction host r.action)

/-- Runs a program to its end: errors are reported, outputs closed and output passed on. -/
def runToEnd (host : Host) : AwkM Unit := do
  tryCatch (runProgram host) fun
    | .error message => do
      liftShell (writeTo 2 (runtimeMessage (← get) message))
      modify fun m => { m with exitCode := 2 }
    | .fatal message => do
      liftShell (writeTo 2 ((← get).progname ++ ": " ++ message ++ "\n"))
      modify fun m => { m with exitCode := 2 }
    | _ => pure ()
  tryCatch (closeOutputs host) fun _ => pure ()
  flushOut

end Regress.Awk
