import Regress.FileTree
import Regress.Failure

/-!
# Comparing transcripts

A case passes when its actual transcript is the expected one, byte for byte: no line ending or
trailing newline is forgiven. A transcript that cannot be read is a failure of the comparison,
the expected one first.
-/

namespace Regress.Transcript

/-- Whether the files at `expected` and `actual` hold the same text. -/
def agree (t : FileTree) (cwd : List String) (expected actual : String) : Except Failure Bool :=
  match t.readFile cwd expected with
  | .error e => .error (Failure.other ("read expected output: " ++ e.message))
  | .ok want =>
    match t.readFile cwd actual with
    | .error e => .error (Failure.other ("read actual output: " ++ e.message))
    | .ok got => .ok (want == got)

end Regress.Transcript
