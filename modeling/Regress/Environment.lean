/-!
# Environment variables

The variables a run sees, by name, in the order they were first set. Setting a variable that is
there replaces its value in place. A name must be non-empty and hold no `=` or zero character,
and a value no zero character; setting anything else does nothing.
-/

namespace Regress

/-- Environment variables by name. -/
structure Environment where
  vars : List (String × String)
  deriving Repr, Inhabited, DecidableEq

namespace Environment

/-- The value of a variable, if it is set. -/
def get? (e : Environment) (name : String) : Option String :=
  (e.vars.find? (·.1 == name)).map (·.2)

/-- Whether a variable is set, even to the empty text. -/
def has (e : Environment) (name : String) : Bool :=
  e.vars.any (·.1 == name)

/-- Whether a name and value can be set. -/
def settable (name value : String) : Bool :=
  !name.isEmpty && !name.contains '=' && !name.contains '\x00' && !value.contains '\x00'

/-- Sets a variable, replacing its value if it is set. -/
def set (e : Environment) (name value : String) : Environment :=
  if !settable name value then e
  else if e.has name then ⟨e.vars.map fun (k, v) => if k == name then (k, value) else (k, v)⟩
  else ⟨e.vars ++ [(name, value)]⟩

/-- The value of a variable, or the empty text. -/
def getD (e : Environment) (name : String) : String :=
  (e.get? name).getD ""

end Environment

end Regress
