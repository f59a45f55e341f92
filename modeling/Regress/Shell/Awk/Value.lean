import Regress.Shell.Awk.Format
import Regress.Shell.Awk.Syntax

/-!
# The values of awk

A value is a number, a text, a text from the input that may be read as a number, or the value
of a variable never set.

* **Input.** Fields, records, `getline` variables, `split` elements, `ARGV`, `ENVIRON` and
  assignments on the command line are texts from the input: those that look numeric carry
  their number beside their text.
* **Conversion.** A number becomes text by `CONVFMT`, or by `OFMT` when `print` writes it; a
  whole number in the range awk writes with digits is written with its digits either way. A
  text becomes a number by the longest number it starts with. The unset value is the empty
  text and zero.
* **Truth.** A number is true when it is not zero, a text when it is not empty, and input by
  its number when it looks numeric.
* **Comparison.** Two values compare as numbers when neither is a plain text (an unset value
  counts as a number), and otherwise as texts, character by character. Numbers that do not
  compare as less or greater (not a number among them) compare equal.
-/

namespace Regress.Awk

/-- A value of awk. -/
inductive Value where
  | uninit
  | num (x : Float)
  | str (s : String)
  | strnum (s : String) (x : Float)
  deriving Inhabited

namespace Value

/-- A text from the input: numeric when it looks numeric. -/
def ofInput (s : String) : Value :=
  match looksNumeric s with
  | some x => .strnum s x
  | none => .str s

/-- The number of a value. -/
def toNum : Value → Float
  | .uninit => 0
  | .num x => x
  | .str s => numberOfText s
  | .strnum _ x => x

/-- The text of a value, numbers written by the format `convfmt`. -/
def toText (convfmt : String) : Value → String
  | .uninit => ""
  | .num x => numberText convfmt x
  | .str s => s
  | .strnum s _ => s

/-- Whether a value is true. -/
def isTrue : Value → Bool
  | .uninit => false
  | .num x => x != 0
  | .str s => !s.isEmpty
  | .strnum _ x => x != 0

/-- Whether a value compares as a number. -/
def comparesAsNumber : Value → Bool
  | .str _ => false
  | _ => true

/-- A value as an argument of a format. -/
def toFormatArg (convfmt : String) (v : Value) : FormatArg :=
  { number := v.toNum, text := v.toText convfmt
    numeric := match v with
      | .num _ | .strnum _ _ => true
      | _ => false }

end Value

/-- How two numbers compare; numbers neither less nor greater compare equal. -/
def compareNumbers (a b : Float) : Ordering :=
  if a < b then .lt else if a > b then .gt else .eq

/-- How two texts compare, character by character. -/
def compareTexts (a b : String) : Ordering :=
  if a < b then .lt else if a == b then .eq else .gt

/-- How two values compare: as numbers when both compare as numbers, else as texts. -/
def compareValues (convfmt : String) (a b : Value) : Ordering :=
  if a.comparesAsNumber && b.comparesAsNumber then compareNumbers a.toNum b.toNum
  else compareTexts (a.toText convfmt) (b.toText convfmt)

/-- Whether a comparison holds for an ordering. -/
def CompareOp.holds : CompareOp → Ordering → Bool
  | .lt, o => o == .lt
  | .le, o => o != .gt
  | .eq, o => o == .eq
  | .ne, o => o != .eq
  | .gt, o => o == .gt
  | .ge, o => o != .lt

end Regress.Awk
