import Regress.Glob

/-!
# Choosing cases by name

A run can be narrowed to the cases whose names fit a pattern. The empty pattern admits every
name. Otherwise a name is admitted when the shell pattern accepts it; failing that, a pattern
without `*` and `?` admits the names that contain it, and a pattern with `*` but no `?` admits
the names that contain its non-empty star-separated pieces in order, each after the previous
one (`occursInOrder`). A malformed shell pattern, such as `[`, thus still acts as a substring.
Containment is a matter of octets: a piece occurs in a name where its octets stand among the
name's octets.
-/

namespace Regress.NameFilter

/-- The rest of `s` after the leftmost occurrence of `part`, if `part` occurs in it. -/
def afterFirst (part : List UInt8) : List UInt8 → Option (List UInt8)
  | [] => if part.isEmpty then some [] else none
  | c :: t => if part.isPrefixOf (c :: t) then some ((c :: t).drop part.length) else afterFirst part t

/-- Whether every piece occurs in `s`, each after the leftmost occurrence of the one before. -/
def occursInOrder : List (List UInt8) → List UInt8 → Bool
  | [], _ => true
  | p :: ps, s =>
    match afterFirst p s with
    | some rest => occursInOrder ps rest
    | none => false

/-- The octets of the non-empty pieces of a pattern between its stars. -/
def pieces (pattern : String) : List (List UInt8) :=
  ((pattern.toList.splitOn '*').filter (!·.isEmpty)).map fun piece => Utf8.octets (String.ofList piece)

/-- Whether the pattern admits the name. -/
def admits (pattern name : String) : Bool :=
  if pattern.isEmpty then true
  else if Glob.accepts pattern name = some true then true
  else if !(pattern.contains '*' || pattern.contains '?') then
    (afterFirst (Utf8.octets pattern) (Utf8.octets name)).isSome
  else if pattern.contains '?' then false
  else !(pieces pattern).isEmpty && occursInOrder (pieces pattern) (Utf8.octets name)

/-- The names the pattern admits, in their order, duplicates kept. -/
def select (pattern : String) (names : List String) : List String :=
  if pattern.isEmpty then names else names.filter (admits pattern)

end Regress.NameFilter
