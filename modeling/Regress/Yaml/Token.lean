/-!
# YAML tokens

The scanner turns a YAML text into tokens, each with the marks where it starts and ends. A mark
counts characters from the start of the text, and lines and columns from zero. Block structure
shows up as explicit tokens: `blockMappingStart` and `blockSequenceStart` open a block
collection where indentation grows, `blockEnd` closes one where it shrinks, and `key` and `value`
stand before the parts of a mapping entry.

A `Problem` is what stops reading: its wording, the mark where it was found, the mark of the
construct it was found in, and whether the scanner or the parser found it. Its message names
a line only when one of the marks is past the first line: the construct's line if it has one,
else the problem's, one more for a scanner problem.
-/

namespace Regress.Yaml

/-- A position in the text: characters before it, and its line and column, both from zero. -/
structure Mark where
  index : Nat
  line : Nat
  column : Nat
  deriving Repr, DecidableEq, Inhabited

/-- How a scalar is written. -/
inductive ScalarStyle where
  | plain
  | singleQuoted
  | doubleQuoted
  | literal
  | folded
  deriving Repr, DecidableEq, Inhabited

/-- What a token is, with what it carries. -/
inductive TokenKind where
  | streamStart
  | streamEnd
  | versionDirective (major minor : Nat)
  | tagDirective (handle pfx : String)
  | documentStart
  | documentEnd
  | blockSequenceStart
  | blockMappingStart
  | blockEnd
  | flowSequenceStart
  | flowSequenceEnd
  | flowMappingStart
  | flowMappingEnd
  | blockEntry
  | flowEntry
  | key
  | value
  | alias (name : String)
  | anchor (name : String)
  | tag (handle suffix : String)
  | scalar (text : String) (style : ScalarStyle)
  deriving Repr, DecidableEq, Inhabited

/-- A token and where it lies. -/
structure Token where
  kind : TokenKind
  startMark : Mark
  endMark : Mark
  deriving Repr, Inhabited

/-- Why a text could not be read. -/
structure Problem where
  problem : String
  problemMark : Mark
  contextMark : Mark
  fromScanner : Bool
  deriving Repr, Inhabited

/-- A problem with no position, such as one found before any character is read. -/
def Problem.plain (text : String) : Problem :=
  ⟨text, ⟨0, 0, 0⟩, ⟨0, 0, 0⟩, false⟩

/-- The line a problem's message names, or zero for none. -/
def Problem.line (p : Problem) : Nat :=
  let bump := if p.fromScanner then 1 else 0
  if p.contextMark.line ≠ 0 then p.contextMark.line + bump
  else if p.problemMark.line ≠ 0 then p.problemMark.line + bump
  else 0

/-- The problem as reported: `yaml: `, then `line N: ` when there is a line, then the wording. -/
def Problem.message (p : Problem) : String :=
  "yaml: " ++ (if p.line ≠ 0 then "line " ++ toString p.line ++ ": " else "") ++ p.problem

end Regress.Yaml
