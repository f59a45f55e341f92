/-!
# Command-line options of the utilities

The utilities read their options the GNU way.

* `-abc` is the letters `a`, `b` and `c`; a letter that takes an argument takes the rest of
  its word, or the next word when the word ends with it.
* `--name` and `--name=value` are long options. A unique prefix of a long name stands for it,
  and an exact name always wins.
* Options may come after operands, unless the utility stops at its first operand. `--` ends
  the options, and `-` alone is an operand.

Each option is known after reading by a key, so that a letter and its long name read alike.
-/

namespace Regress.Shell

/-- Whether an option takes an argument. -/
inductive ArgNeed where
  | none
  | required
  | optional
  deriving Repr, DecidableEq, Inhabited

/-- An option a utility knows: its key, its letter, its long name and its argument. -/
structure OptSpec where
  key : String
  short : Option Char := none
  long : Option String := none
  arg : ArgNeed := .none
  deriving Repr, Inhabited

/-- Why the options could not be read. -/
inductive OptError where
  | invalid (c : Char)
  | missing (c : Char)
  | unrecognized (text : String)
  | ambiguous (text : String) (names : List String)
  | missingLong (name : String)
  | unwanted (name : String)
  deriving Repr, DecidableEq, Inhabited

/-- The message for an option error of the utility `prog`. -/
def OptError.message (prog : String) : OptError → String
  | .invalid c => prog ++ ": invalid option -- \x27" ++ String.singleton c ++ "\x27\n"
  | .missing c => prog ++ ": option requires an argument -- \x27" ++ String.singleton c ++ "\x27\n"
  | .unrecognized t => prog ++ ": unrecognized option \x27" ++ t ++ "\x27\n"
  | .ambiguous t names =>
    prog ++ ": option \x27" ++ t ++ "\x27 is ambiguous; possibilities:" ++
      String.join (names.map fun n => " \x27--" ++ n ++ "\x27") ++ "\n"
  | .missingLong n => prog ++ ": option \x27--" ++ n ++ "\x27 requires an argument\n"
  | .unwanted n => prog ++ ": option \x27--" ++ n ++ "\x27 doesn\x27t allow an argument\n"

/-- Options read: each key with its argument (empty when it takes none), in order. -/
abbrev OptList := List (String × String)

/-- Whether an option was given. -/
def OptList.has (o : OptList) (key : String) : Bool :=
  o.any (·.1 == key)

/-- The argument of the last time an option was given. -/
def OptList.last? (o : OptList) (key : String) : Option String :=
  (o.filter (·.1 == key)).getLast?.map (·.2)

/-- The arguments of every time an option was given. -/
def OptList.all (o : OptList) (key : String) : List String :=
  (o.filter (·.1 == key)).map (·.2)

/-- The option a long name stands for: an exact name, else the only one it is a prefix of. -/
def findLong (specs : List OptSpec) (name text : String) : Except OptError OptSpec :=
  let withLong := specs.filter (·.long.isSome)
  match withLong.find? (·.long == some name) with
  | some s => .ok s
  | none =>
    let candidates := withLong.filter fun s => (s.long.getD "").startsWith name
    match candidates with
    | [] => .error (.unrecognized text)
    | [s] => .ok s
    | s :: more =>
      if more.all (·.key == s.key) then .ok s
      else .error (.ambiguous text (candidates.map (·.long.getD "")))

/-- Reads the letters of one word: the options and the words left, or the options read before
the error and the error. -/
def readLetters (specs : List OptSpec) : List Char → List String → OptList →
    Except (OptList × OptError) (OptList × List String)
  | [], rest, acc => .ok (acc, rest)
  | c :: more, rest, acc =>
    match specs.find? (·.short == some c) with
    | none => .error (acc, .invalid c)
    | some s =>
      match s.arg with
      | .none => readLetters specs more rest (acc ++ [(s.key, "")])
      | .optional => .ok (acc ++ [(s.key, String.ofList more)], rest)
      | .required =>
        if !more.isEmpty then .ok (acc ++ [(s.key, String.ofList more)], rest)
        else
          match rest with
          | v :: rest' => .ok (acc ++ [(s.key, v)], rest')
          | [] => .error (acc, .missing c)

/-- Reads options from the words: the options and the operands, or the options read before the
first error and the error. With `stopAtOperand` the first operand ends the options. -/
def readOptions (specs : List OptSpec) (stopAtOperand : Bool) : Nat → List String → OptList →
    List String → Except (OptList × OptError) (OptList × List String)
  | 0, rest, acc, ops => .ok (acc, ops.reverse ++ rest)
  | _ + 1, [], acc, ops => .ok (acc, ops.reverse)
  | fuel + 1, a :: rest, acc, ops =>
    if a == "--" then .ok (acc, ops.reverse ++ rest)
    else if a.startsWith "--" then
      let body := String.ofList (a.toList.drop 2)
      let name := String.ofList (body.toList.takeWhile (· != '='))
      let value := if name.length < body.length then some (String.ofList (body.toList.drop (name.length + 1))) else none
      match findLong specs name a with
      | .error e => .error (acc, e)
      | .ok s =>
        let longName := s.long.getD name
        match s.arg, value with
        | .none, some _ => .error (acc, .unwanted longName)
        | .none, none => readOptions specs stopAtOperand fuel rest (acc ++ [(s.key, "")]) ops
        | _, some v => readOptions specs stopAtOperand fuel rest (acc ++ [(s.key, v)]) ops
        | .optional, none => readOptions specs stopAtOperand fuel rest (acc ++ [(s.key, "")]) ops
        | .required, none =>
          match rest with
          | v :: rest' => readOptions specs stopAtOperand fuel rest' (acc ++ [(s.key, v)]) ops
          | [] => .error (acc, .missingLong longName)
    else if a.length ≥ 2 && a.startsWith "-" then
      match readLetters specs (a.toList.drop 1) rest acc with
      | .error e => .error e
      | .ok (acc, rest) => readOptions specs stopAtOperand fuel rest acc ops
    else if stopAtOperand then .ok (acc, ops.reverse ++ a :: rest)
    else readOptions specs stopAtOperand fuel rest acc (a :: ops)

/-- Reads the options of a utility from its arguments. -/
def parseOptions (specs : List OptSpec) (stopAtOperand : Bool) (args : List String) :
    Except OptError (OptList × List String) :=
  (readOptions specs stopAtOperand (args.length + 1) args [] []).mapError (·.2)

/-- Reads the options of a utility from its arguments, keeping on an error the options read
before it, for utilities that act on each option as they read it. -/
def parseOptionsInOrder (specs : List OptSpec) (stopAtOperand : Bool) (args : List String) :
    Except (OptList × OptError) (OptList × List String) :=
  readOptions specs stopAtOperand (args.length + 1) args [] []

/-- The value an argument names among choices: the one it equals, else the one it is a prefix of
(several that name one value count as one). The error says whether the prefix fits several values
(or else none). -/
def matchArgument [BEq α] (choices : List (String × α)) (arg : String) : Except Bool α :=
  match choices.find? (·.1 == arg) with
  | some (_, v) => .ok v
  | none =>
    match choices.filter (arg.isPrefixOf ·.1) with
    | [] => .error false
    | (_, v) :: more => if more.all (·.2 == v) then .ok v else .error true

/-- Options that are single letters without arguments. -/
def flags (letters : String) : List OptSpec :=
  letters.toList.map fun c => { key := String.singleton c, short := some c }

end Regress.Shell
