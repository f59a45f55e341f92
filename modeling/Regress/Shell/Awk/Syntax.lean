/-!
# The syntax of awk programs

An awk program is a list of rules and functions. A rule is a pattern with an action: `BEGIN`
and `END` rules run before and after the input, a rule with an expression runs for each record
the expression holds for, a range rule from a record its first expression holds for up to one
its second holds for, and a rule with no pattern for every record. A rule without an action
writes the record.

* **Expressions** are numbers, strings, regular expressions, variables, fields, array
  elements, membership tests, assignments, the operators of C without the bitwise ones,
  concatenation, regular expression matches, calls of functions and the forms of `getline`.
  A regular expression standing alone matches the record.
* **Statements** are expressions, `print` and `printf` with an optional destination (a file
  written anew, a file appended to, or a command fed through a pipe), the loops and `if` of C,
  `for (key in array)`, `next`, `nextfile`, `exit`, `return`, `break`, `continue` and
  `delete`.
-/

namespace Regress.Awk

/-- The arithmetic operators: `+ - * / %` and exponentiation `^`. -/
inductive ArithOp where
  | add
  | sub
  | mul
  | div
  | mod
  | pow
  deriving Repr, DecidableEq, Inhabited

/-- The comparisons: `< <= == != > >=`. -/
inductive CompareOp where
  | lt
  | le
  | eq
  | ne
  | gt
  | ge
  deriving Repr, DecidableEq, Inhabited

/-- The functions awk provides. -/
inductive Builtin where
  | length
  | substr
  | index
  | split
  | sub
  | gsub
  | match
  | sprintf
  | sin
  | cos
  | atan2
  | exp
  | log
  | int
  | sqrt
  | rand
  | srand
  | tolower
  | toupper
  | system
  | close
  | fflush
  deriving Repr, DecidableEq, Inhabited

/-- The name of a function awk provides. -/
def Builtin.name : Builtin → String
  | .length => "length"
  | .substr => "substr"
  | .index => "index"
  | .split => "split"
  | .sub => "sub"
  | .gsub => "gsub"
  | .match => "match"
  | .sprintf => "sprintf"
  | .sin => "sin"
  | .cos => "cos"
  | .atan2 => "atan2"
  | .exp => "exp"
  | .log => "log"
  | .int => "int"
  | .sqrt => "sqrt"
  | .rand => "rand"
  | .srand => "srand"
  | .tolower => "tolower"
  | .toupper => "toupper"
  | .system => "system"
  | .close => "close"
  | .fflush => "fflush"

/-- Every function awk provides. -/
def Builtin.all : List Builtin :=
  [.length, .substr, .index, .split, .sub, .gsub, .match, .sprintf, .sin, .cos, .atan2, .exp,
   .log, .int, .sqrt, .rand, .srand, .tolower, .toupper, .system, .close, .fflush]

/-- The fewest and the most arguments a function awk provides takes. -/
def Builtin.arity : Builtin → Nat × Nat
  | .length => (0, 1)
  | .substr => (2, 3)
  | .index => (2, 2)
  | .split => (2, 3)
  | .sub => (2, 3)
  | .gsub => (2, 3)
  | .match => (2, 2)
  | .sprintf => (1, 255)
  | .sin | .cos | .exp | .log | .int | .sqrt | .tolower | .toupper | .system => (1, 1)
  | .atan2 => (2, 2)
  | .rand => (0, 0)
  | .srand => (0, 1)
  | .close => (1, 1)
  | .fflush => (0, 1)

/-- An expression. -/
inductive Expr where
  | number (x : Float)
  | text (s : String)
  | regex (source : String)
  | var (name : String)
  | field (index : Expr)
  | element (array : String) (subscripts : List Expr)
  | member (subscripts : List Expr) (array : String)
  | assign (op : Option ArithOp) (target value : Expr)
  | cond (test yes no : Expr)
  | and (a b : Expr)
  | or (a b : Expr)
  | not (a : Expr)
  | arith (op : ArithOp) (a b : Expr)
  | compare (op : CompareOp) (a b : Expr)
  | matches (negated : Bool) (subject pattern : Expr)
  | concat (a b : Expr)
  | negate (a : Expr)
  | plus (a : Expr)
  | incr (pre up : Bool) (target : Expr)
  | call (name : String) (args : List Expr)
  | builtin (f : Builtin) (args : List Expr)
  | getline (target : Option Expr)
  | getlineFile (file : Expr) (target : Option Expr)
  | getlineCommand (command : Expr) (target : Option Expr)
  | group (items : List Expr)
  deriving Inhabited

/-- Where `print` and `printf` write: the standard output, a file written anew on its first
use, a file appended to, or the standard input of a command. -/
inductive Output where
  | file (target : Expr)
  | append (target : Expr)
  | pipe (command : Expr)
  deriving Inhabited

/-- A statement. -/
inductive Stmt where
  | expr (e : Expr)
  | print (items : List Expr) (dest : Option Output)
  | printf (items : List Expr) (dest : Option Output)
  | ifElse (test : Expr) (yes : Stmt) (no : Option Stmt)
  | whileLoop (test : Expr) (body : Stmt)
  | doLoop (body : Stmt) (test : Expr)
  | forLoop (init test step : Option Expr) (body : Stmt)
  | forIn (key : String) (array : String) (body : Stmt)
  | block (body : List Stmt)
  | next
  | nextFile
  | exit (code : Option Expr)
  | ret (value : Option Expr)
  | breakLoop
  | continueLoop
  | delete (array : String) (subscripts : Option (List Expr))
  deriving Inhabited

/-- When a rule runs. -/
inductive Pattern where
  | begin
  | finish
  | always
  | test (e : Expr)
  | range (start stop : Expr)
  deriving Inhabited

/-- A rule: its pattern and its action; without an action it writes the record. -/
structure Rule where
  pattern : Pattern
  action : Option Stmt
  deriving Inhabited

/-- A function of the program: its parameters and its body. -/
structure Function where
  name : String
  params : List String
  body : Stmt
  deriving Inhabited

/-- A program: its rules in order and its functions. -/
structure Program where
  rules : List Rule := []
  functions : List Function := []
  deriving Inhabited

end Regress.Awk
