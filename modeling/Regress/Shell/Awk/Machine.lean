import Regress.Shell.Awk.Parse
import Regress.Shell.Awk.Table
import Regress.Shell.Awk.Record
import Regress.Shell.Utility.Basic
import Regress.Shell.State

/-!
# The state of a running awk program

A running program keeps its variables, its arrays, the record and its fields, what it has
written and not yet passed on, the files and commands it has open, and where it is in its
input. It runs inside the shell process that started it, whose files, descriptors and
environment it uses.

* **Variables** are global, except the parameters of the function running, which are its own.
  An array is a table kept by number; names, global or of a function, are bound to tables.
  `NF` is the number of fields.
* **The record** is split into fields when it is set, by the `FS` of that moment; setting a
  field or `NF` joins the fields again with `OFS`.
* **Standard output** is held back and passed on when awk runs a command, when it opens a
  command to write to or read from, when it flushes, and at the end. `/dev/stderr` is written
  at once. Files are written as awk writes to them: `>` empties a file when it first opens it,
  `>>` keeps what is there. A command written to runs when it is closed, on all it was sent.
* **Input** for `getline` from a file or a command is read when first asked for and then
  given out record by record. The main input is the operands of `ARGV` in turn: empty ones
  are skipped, `name=value` ones assign when reached, and the others are files, `-` standing
  for standard input, which is read when no file was named.
* **Errors** at run time stop the program with a message naming the input file and the
  record numbers; they, like `exit`, still close what is open and pass output on.
-/

namespace Regress.Awk

open Regress.Shell

/-- How an output awk opened writes: to a file anew, appending to a file, or to a command. -/
inductive OutputKind where
  | file
  | append
  | pipe
  deriving Repr, DecidableEq, Inhabited

/-- An output awk has open: its name, how it writes, the file it writes to, and for a command
what it will read. -/
structure OpenOutput where
  name : String
  kind : OutputKind
  path : List String := []
  pending : String := ""
  deriving Inhabited

/-- An input awk has open for `getline`: its name, whether it is a command, what is left of
it, and for a command its status. -/
structure OpenInput where
  name : String
  command : Bool
  rest : String
  status : Nat := 0
  deriving Inhabited

/-- The variables of the function running: its parameters, the values of those that are
scalars, and the tables of those that are arrays. -/
structure Frame where
  params : List String
  scalars : List (String × Value) := []
  arrays : List (String × Nat) := []
  deriving Inhabited

/-- Where the main input is: the next operand of `ARGV` to look at, the text left of the input
being read, whether a file was named, and whether the input is over. -/
structure MainInput where
  nextArg : Nat := 1
  current : Option String := none
  sawFile : Bool := false
  finished : Bool := false
  deriving Inhabited

/-- A running awk program. -/
structure Machine where
  program : Program
  globals : List (String × Value) := []
  globalArrays : List (String × Nat) := []
  tables : Array Table := #[]
  frames : List Frame := []
  record : String := ""
  fields : Array Value := #[]
  out : String := ""
  outputs : List OpenOutput := []
  inputs : List OpenInput := []
  main : MainInput := {}
  activeRanges : List Nat := []
  seed : Float := 0
  randomState : Nat := 0
  exitCode : Nat := 0
  progname : String := "awk"
  deriving Inhabited

/-- Why a program left its course: the next record or file, `exit`, `return` with a value,
`break`, `continue`, an error at run time, or another fatal error with its whole message. -/
inductive Flow where
  | next
  | nextFile
  | exit
  | ret (v : Value)
  | breakLoop
  | continueLoop
  | error (message : String)
  | fatal (message : String)
  deriving Inhabited

/-- A step of a running awk program. -/
abbrev AwkM := ExceptT Flow (StateT Machine ShellM)

/-- What awk asks of the shell it runs in: to run a command line with `sh -c`, reading the
given text or else awk's own input, its output captured or else sent to awk's own; the text
captured and the status, 256 and the signal for one killed. -/
structure Host where
  command : String → Option String → Bool → ShellM (String × Nat)

/-- Runs a step of the shell. -/
def liftShell {α : Type} (x : ShellM α) : AwkM α :=
  ExceptT.lift (StateT.lift x)

/-- Stops the program with an error at run time. -/
def runtimeError {α : Type} (message : String) : AwkM α :=
  throw (.error message)

/-- Binds a name in a list of bindings, in place when it is there. -/
def setBinding {β : Type} (xs : List (String × β)) (name : String) (v : β) : List (String × β) :=
  if xs.any (·.1 == name) then xs.map fun (n, w) => if n == name then (n, v) else (n, w)
  else (name, v) :: xs

/-- Whether a name is a parameter of the function running. -/
def Machine.isLocal (m : Machine) (name : String) : Bool :=
  match m.frames with
  | f :: _ => f.params.contains name
  | [] => false

/-- The value of a global variable. -/
def globalValue (name : String) : AwkM Value := do
  pure (((← get).globals.lookup name).getD .uninit)

/-- Sets a global variable, `NF` apart. -/
def setGlobal (name : String) (v : Value) : AwkM Unit :=
  modify fun m => { m with globals := setBinding m.globals name v }

/-- The text of a global variable, numbers written by `%.6g`. -/
def globalText (name : String) : AwkM String := do
  pure ((← globalValue name).toText "%.6g")

/-- The format numbers become text by. -/
def convfmt : AwkM String := globalText "CONVFMT"

/-- The text of a value, numbers written by `CONVFMT`. -/
def textOf (v : Value) : AwkM String := do
  pure (v.toText (← convfmt))

/-- The text `print` writes for a value, numbers written by `OFMT`. -/
def outputText (v : Value) : AwkM String := do
  match v with
  | .num x => pure (numberText (← globalText "OFMT") x)
  | _ => textOf v

/-- Increases a numeric global variable by one. -/
def countUp (name : String) : AwkM Unit := do
  setGlobal name (.num ((← globalValue name).toNum + 1))

/-- The separation of fields `FS` asks for. -/
def currentFieldSep : AwkM FieldSep := do
  let fs ← globalText "FS"
  match fieldSep fs with
  | .ok s => pure s
  | .error e => runtimeError ("regular expression compile failed (" ++ e ++ ")\n" ++ fs)

/-- The separation of records `RS` asks for. -/
def currentRecordSep : AwkM RecordSep := do
  let rs ← globalText "RS"
  match recordSep rs with
  | .ok s => pure s
  | .error e => runtimeError ("regular expression compile failed (" ++ e ++ ")\n" ++ rs)

/-- Sets the record and splits it into fields. -/
def setRecord (text : String) : AwkM Unit := do
  let sep ← currentFieldSep
  let paragraph := (← globalText "RS").isEmpty
  let fields := ((recordFields sep paragraph text).map Value.ofInput).toArray
  modify fun m => { m with record := text, fields }

/-- Joins the fields into the record with `OFS`. -/
def rebuildRecord : AwkM Unit := do
  let ofs ← globalText "OFS"
  let fmt ← convfmt
  modify fun m => { m with record := ofs.intercalate (m.fields.toList.map (·.toText fmt)) }

/-- The value of a field; `$0` is the record. -/
def fieldValue (i : Nat) : AwkM Value := do
  let m ← get
  if i == 0 then pure (Value.ofInput m.record) else pure (m.fields.getD (i - 1) .uninit)

/-- Sets the number of fields: fields beyond it go, missing ones are empty. -/
def setFieldCount (n : Nat) : AwkM Unit := do
  modify fun m =>
    { m with fields := if n ≤ m.fields.size then m.fields.extract 0 n
                       else m.fields ++ Array.replicate (n - m.fields.size) .uninit }
  rebuildRecord

/-- Sets a field; `$0` sets the record. -/
def setField (i : Nat) (v : Value) : AwkM Unit := do
  if i == 0 then setRecord (← textOf v)
  else
    modify fun m =>
      let fields := if m.fields.size < i then m.fields ++ Array.replicate (i - m.fields.size) .uninit
        else m.fields
      { m with fields := fields.set! (i - 1) v }
    rebuildRecord

/-- The value of a variable. -/
def varValue (name : String) : AwkM Value := do
  let m ← get
  match m.frames with
  | f :: _ =>
    if f.params.contains name then return (f.scalars.lookup name).getD .uninit
  | [] => pure ()
  if name == "NF" then return .num (Float.ofNat m.fields.size)
  return (m.globals.lookup name).getD .uninit

/-- Sets a variable. -/
def setVar (name : String) (v : Value) : AwkM Unit := do
  let m ← get
  match m.frames with
  | f :: rest =>
    if f.params.contains name then
      set { m with frames := { f with scalars := setBinding f.scalars name v } :: rest }
      return
  | [] => pure ()
  if name == "NF" then
    let n := v.toNum
    setFieldCount (if n > 0 then (truncate n).toUInt64.toNat else 0)
  else setGlobal name v

/-- Whether a name is bound to an array. -/
def isArray (name : String) : AwkM Bool := do
  let m ← get
  match m.frames with
  | f :: _ => if f.params.contains name then return (f.arrays.lookup name).isSome
  | [] => pure ()
  return (m.globalArrays.lookup name).isSome

/-- The table of an array, made empty when the name has none yet. -/
def arrayId (name : String) : AwkM Nat := do
  let m ← get
  let id := m.tables.size
  match m.frames with
  | f :: rest =>
    if f.params.contains name then
      match f.arrays.lookup name with
      | some t => return t
      | none =>
        set { m with tables := m.tables.push {}
                     frames := { f with arrays := (name, id) :: f.arrays } :: rest }
        return id
  | [] => pure ()
  match m.globalArrays.lookup name with
  | some t => return t
  | none =>
    set { m with tables := m.tables.push {}, globalArrays := (name, id) :: m.globalArrays }
    return id

/-- Works on a table, taking it out of the machine meanwhile so that it changes in place. -/
def withTable {α : Type} (id : Nat) (f : Table → Table × α) : AwkM α := do
  let t ← modifyGet fun m => (m.tables.getD id {}, { m with tables := m.tables.set! id {} })
  let (t, a) := f t
  modify fun m => { m with tables := m.tables.set! id t }
  pure a

/-- Replaces a table. -/
def setTable (id : Nat) (t : Table) : AwkM Unit :=
  modify fun m => { m with tables := m.tables.set! id t }

/-- The key a value looks up: a whole number that awk's 32-bit conversion keeps as a number,
anything else as its text. -/
def keyOf (v : Value) : AwkM Key := do
  match v with
  | .num x =>
    match wholeValue? x with
    | some i => if i.natAbs ≤ 2147483647 then pure (.int i) else pure (.text (← textOf v))
    | none => pure (.text (← textOf v))
  | _ => pure (.text (← textOf v))

/-- Passes held-back standard output on. -/
def flushOut : AwkM Unit := do
  let text ← modifyGet fun m => (m.out, { m with out := "" })
  if !text.isEmpty then liftShell (writeTo 1 text)

/-- Holds back text for standard output. -/
def emit (text : String) : AwkM Unit :=
  modify fun m => { m with out := m.out ++ text }

/-- Where an output goes: awk's standard output, its standard error, a file, or a command. -/
inductive Dest where
  | stdout
  | stderr
  | named (name : String) (kind : OutputKind)
  deriving Inhabited

/-- The destination a name and kind stand for. -/
def destOf (name : String) (kind : OutputKind) : Dest :=
  if kind != .pipe && (name == "/dev/stdout" || name == "-") then .stdout
  else if kind != .pipe && name == "/dev/stderr" then .stderr
  else .named name kind

/-- Opens an output, or finds it open. -/
def openOutput (name : String) (kind : OutputKind) : AwkM OpenOutput := do
  match (← get).outputs.find? (·.name == name) with
  | some o => pure o
  | none =>
    let o ← match kind with
      | .pipe => do
        flushOut
        pure ({ name, kind } : OpenOutput)
      | _ => do
        let sh ← liftShell get
        let existing : Option String := match sh.tree.readFile sh.cwd name with
          | .ok c => some c
          | .error _ => none
        let content := if kind == .append then existing.getD "" else ""
        match sh.tree.writeFile sh.cwd name content with
        | .ok tree =>
          liftShell (modify fun sh => { sh with tree })
          let path := match sh.tree.locate sh.cwd name with
            | .ok pl => pl.full
            | .error _ => []
          pure ({ name, kind, path } : OpenOutput)
        | .error e =>
          throw (.fatal ("cannot open \"" ++ name ++ "\" for output (" ++ errnoText e.errno ++ ")"))
    modify fun m => { m with outputs := o :: m.outputs }
    pure o

/-- Writes text to a destination. -/
def writeDest (d : Dest) (text : String) : AwkM Unit := do
  match d with
  | .stdout => emit text
  | .stderr => liftShell (writeTo 2 text)
  | .named name kind =>
    let o ← openOutput name kind
    match o.kind with
    | .pipe =>
      modify fun m => { m with outputs := m.outputs.map fun p =>
        if p.name == name then { p with pending := p.pending ++ text } else p }
    | _ => liftShell (writeSink (.file o.path) text)

/-- Closes an output: a command runs on what it was sent. Its status, or 0 for a file. -/
def closeOutput (host : Host) (o : OpenOutput) : AwkM Nat := do
  modify fun m => { m with outputs := m.outputs.filter (·.name != o.name) }
  match o.kind with
  | .pipe =>
    let (_, status) ← liftShell (host.command o.name (some o.pending) false)
    pure status
  | _ => pure 0

/-- Closes everything open for output, newest first. -/
def closeOutputs (host : Host) : AwkM Unit := do
  for o in (← get).outputs do
    let _ ← closeOutput host o

/-- `close`: closes the output or input of a name. Its status, or -1 when nothing of that name
is open. -/
def closeStream (host : Host) (name : String) : AwkM Int := do
  let m ← get
  match m.outputs.find? (·.name == name) with
  | some o => pure (← closeOutput host o)
  | none =>
    match m.inputs.find? (·.name == name) with
    | some i =>
      set { m with inputs := m.inputs.filter (·.name != name) }
      pure (if i.command then i.status else 0)
    | none => pure (-1)

/-- Takes what is left of standard input. -/
def takeStdin : AwkM String := do
  let (text, _, _) ← liftShell currentInput
  liftShell (leaveInput "")
  pure text

/-- The next record of an input for `getline`, opening it first: `none` when it cannot be
opened, `some none` at its end. -/
def inputRecord (host : Host) (name : String) (command : Bool) : AwkM (Option (Option String)) := do
  let opened ← match (← get).inputs.find? fun i => i.name == name && i.command == command with
    | some i => pure (some i)
    | none =>
      if command then do
        flushOut
        let (text, status) ← liftShell (host.command name none true)
        pure (some { name, command, rest := text, status })
      else if name == "-" || name == "/dev/stdin" then do
        pure (some { name, command, rest := ← takeStdin })
      else do
        let sh ← liftShell get
        match sh.tree.readFile sh.cwd name with
        | .ok text => pure (some { name, command, rest := text })
        | .error _ => pure none
  match opened with
  | none => pure none
  | some i =>
    let sep ← currentRecordSep
    let (record, rest) := match nextRecord sep i.rest with
      | some (r, rest) => (some r, rest)
      | none => (none, "")
    modify fun m => { m with inputs := { i with rest } :: m.inputs.filter fun j =>
      !(j.name == name && j.command == command) }
    pure (some record)

/-- Whether an operand assigns a variable: a name, `=` and the value. -/
def operandAssignment (arg : String) : Option (String × String) :=
  match arg.splitOn "=" with
  | name :: rest =>
    let cs := name.toList
    match cs with
    | c :: more =>
      if !rest.isEmpty && (c.isAlpha || c == '_') && more.all (fun d => d.isAlphanum || d == '_') then
        some (name, "=".intercalate rest)
      else none
    | [] => none
  | [] => none

/-- The text of an assignment's value with its escapes undone. -/
def unescape : Nat → List Char → String → String
  | 0, _, acc => acc
  | _ + 1, [], acc => acc
  | fuel + 1, c :: rest, acc =>
    if c == '\\' then
      match rest with
      | [] => acc.push '\\'
      | d :: more =>
        match controlEscape d with
        | some e => unescape fuel more (acc.push e)
        | none =>
          if d.isDigit && d.toNat < '8'.toNat then
            let (v, _, after) := readDigits 8 3 rest
            unescape fuel after (acc.push (Char.ofNat (v % 256)))
          else unescape fuel more ((acc.push '\\').push d)
    else unescape fuel rest (acc.push c)

/-- Assigns a variable from the command line: escapes are undone and the value is input. -/
def assignOperand (name value : String) : AwkM Unit :=
  setVar name (Value.ofInput (unescape (value.length + 1) value.toList ""))

/-- The text of an element of `ARGV`, if it is there. -/
def argvEntry (i : Nat) : AwkM (Option String) := do
  let id ← arrayId "ARGV"
  let present ← withTable id (·.contains (.int i))
  if !present then return none
  let v ← withTable id (·.get (.int i))
  pure (some (← textOf v))

/-- Opens the next file of the main input, or standard input when no file was named; `false`
when the operands are used up. -/
def openNextMain (fuel : Nat) : AwkM Bool := do
  for _ in [0:fuel] do
    let m ← get
    let argc := (← globalValue "ARGC").toNum
    let i := m.main.nextArg
    if Float.ofNat i ≥ argc then
      if m.main.sawFile then return false
      modify fun m => { m with main := { m.main with sawFile := true, current := some "" } }
      let text ← takeStdin
      modify fun m => { m with main := { m.main with current := some text } }
      setGlobal "FILENAME" (.str "-")
      setGlobal "FNR" (.num 0)
      return true
    modify fun m => { m with main := { m.main with nextArg := i + 1 } }
    match ← argvEntry i with
    | none => pure ()
    | some arg =>
      if arg.isEmpty then pure ()
      else match operandAssignment arg with
        | some (name, value) => assignOperand name value
        | none =>
          let text ← if arg == "-" || arg == "/dev/stdin" then takeStdin
            else do
              let sh ← liftShell get
              match sh.tree.readFile sh.cwd arg with
              | .ok t => pure t
              | .error e =>
                if e.errno == .isDir then throw (.fatal "read error (Is a directory)")
                else throw (.fatal ("cannot open \"" ++ arg ++ "\" (" ++ errnoText e.errno ++ ")"))
          modify fun m => { m with main := { m.main with sawFile := true, current := some text } }
          setGlobal "FILENAME" (.str arg)
          setGlobal "FNR" (.num 0)
          return true
  return false

/-- The next record of the main input, opening its files in turn; `none` at its end. -/
def nextMainRecord (fuel : Nat) : AwkM (Option String) := do
  for _ in [0:fuel] do
    let m ← get
    if m.main.finished then return none
    match m.main.current with
    | some text =>
      let sep ← currentRecordSep
      match nextRecord sep text with
      | some (r, rest) =>
        modify fun m => { m with main := { m.main with current := some rest } }
        return some r
      | none => modify fun m => { m with main := { m.main with current := none } }
    | none =>
      if !(← openNextMain fuel) then
        modify fun m => { m with main := { m.main with finished := true } }
        return none
  return none

/-- Leaves the rest of the file being read. -/
def skipFile : AwkM Unit :=
  modify fun m => { m with main := { m.main with current := none } }

/-- Compiles a regular expression made at run time. -/
def dynamicRegex (source : String) : AwkM Regex := do
  match compileRegex source with
  | .ok r => pure r
  | .error e => runtimeError ("regular expression compile failed (" ++ e ++ ")\n" ++ source)

/-- The message of an error at run time, with the input file and the record numbers. -/
def runtimeMessage (m : Machine) (message : String) : String :=
  let value (name : String) := ((m.globals.lookup name).getD .uninit)
  m.progname ++ ": run time error: " ++ message ++ "\n\tFILENAME=\"" ++ (value "FILENAME").toText "%.6g" ++
    "\" FNR=" ++ (value "FNR").toText "%.6g" ++ " NR=" ++ (value "NR").toText "%.6g" ++ "\n"

end Regress.Awk
