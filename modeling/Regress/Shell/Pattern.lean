/-!
# Shell patterns

The patterns of `case` and of the `${name%pattern}` family of expansions. `*` matches any
text, `?` any one character, `[...]` one character of a list of ranges, or, after `!` or `^`,
one character outside them. Quoted characters stand for themselves. Unlike file-name patterns,
nothing is special about a slash.

`removeSuffix` and `removePrefix` cut the shortest or the longest end of a text that a pattern
matches, and leave the text as it is when none does.
-/

namespace Regress.Shell

/-- One element of a pattern. -/
inductive PatternElem where
  | literal (c : Char)
  | anyChar
  | anyText
  | oneOf (negated : Bool) (ranges : List (Char × Char))
  deriving Repr, DecidableEq, Inhabited

/-- The ranges of a bracket expression after its `[` and optional negation, up to its `]`, and
the text after it; `none` when it is not closed. A `]` first in the list stands for itself. -/
def bracketRanges : Nat → Bool → List (Char × Bool) → List (Char × Char) →
    Option (List (Char × Char) × List (Char × Bool))
  | 0, _, _, _ => none
  | _ + 1, _, [], _ => none
  | fuel + 1, first, (c, q) :: rest, acc =>
    if c == ']' && !q && !first then some (acc.reverse, rest)
    else
      match rest with
      | ('-', false) :: (hi, hq) :: rest' =>
        if hi == ']' && !hq then bracketRanges fuel false rest ((c, c) :: acc)
        else bracketRanges fuel false rest' ((c, hi) :: acc)
      | _ => bracketRanges fuel false rest ((c, c) :: acc)

/-- Reads a pattern from its characters, each marked when it was quoted. -/
def patternOf : Nat → List (Char × Bool) → List PatternElem
  | 0, _ => []
  | _ + 1, [] => []
  | fuel + 1, (c, q) :: rest =>
    if q then .literal c :: patternOf fuel rest
    else if c == '*' then .anyText :: patternOf fuel rest
    else if c == '?' then .anyChar :: patternOf fuel rest
    else if c == '[' then
      let (negated, body) := match rest with
        | ('!', false) :: r => (true, r)
        | ('^', false) :: r => (true, r)
        | r => (false, r)
      match bracketRanges (body.length + 1) true body [] with
      | some (ranges, after) => .oneOf negated ranges :: patternOf fuel after
      | none => .literal '[' :: patternOf fuel rest
    else if c == '\\' then
      match rest with
      | (d, _) :: r => .literal d :: patternOf fuel r
      | [] => [.literal '\\']
    else .literal c :: patternOf fuel rest

/-- Whether a pattern matches the whole of a text. -/
def PatternElem.matchAll : List PatternElem → List Char → Bool
  | [], cs => cs.isEmpty
  | .anyText :: ps, cs =>
    PatternElem.matchAll ps cs ||
      match cs with
      | [] => false
      | _ :: rest => PatternElem.matchAll (.anyText :: ps) rest
  | .anyChar :: ps, cs =>
    match cs with
    | [] => false
    | _ :: rest => PatternElem.matchAll ps rest
  | .literal c :: ps, cs =>
    match cs with
    | d :: rest => c == d && PatternElem.matchAll ps rest
    | [] => false
  | .oneOf negated ranges :: ps, cs =>
    match cs with
    | d :: rest =>
      (ranges.any fun (lo, hi) => lo ≤ d && d ≤ hi) != negated && PatternElem.matchAll ps rest
    | [] => false
termination_by ps cs => (ps.length, cs.length)

/-- The text without the shortest (or, if `longest`, the longest) end that the pattern
matches. -/
def removeSuffix (p : List PatternElem) (longest : Bool) (s : String) : String :=
  let cs := s.toList
  let cuts := (List.range (cs.length + 1)).filter fun i => PatternElem.matchAll p (cs.drop i)
  let cut := if longest then cuts.head? else cuts.getLast?
  match cut with
  | some i => String.ofList (cs.take i)
  | none => s

/-- The text without the shortest (or, if `longest`, the longest) start that the pattern
matches. -/
def removePrefix (p : List PatternElem) (longest : Bool) (s : String) : String :=
  let cs := s.toList
  let cuts := (List.range (cs.length + 1)).filter fun i => PatternElem.matchAll p (cs.take i)
  let cut := if longest then cuts.getLast? else cuts.head?
  match cut with
  | some i => String.ofList (cs.drop i)
  | none => s

end Regress.Shell
