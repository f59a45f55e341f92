import Regress.Shell.Awk.Regexp
import Regress.Shell.Awk.Number

/-!
# Records, fields and the text functions of awk

The input is cut into records by `RS` and each record into fields by `FS`; `split`, `sub`,
`gsub`, `match`, `substr` and `index` work on text by the same rules.

* **Records.** A one-character `RS` ends a record at that character; the empty `RS` separates
  records by blank lines, leading line breaks skipped and trailing ones dropped at the end; a
  longer `RS` is a regular expression.
* **Fields.** The `FS` of one blank splits at runs of blanks and line breaks, ignoring them at
  the ends; any other single character splits at each of its occurrences; anything longer is a
  regular expression, and one that matches the empty text splits between characters. The empty
  text has no fields.
* **Substitution.** `gsub` replaces every match, left to right, where an empty match right
  after another match does not count; `sub` replaces the first. In the replacement `&` is the
  matched text; a run of backslashes before `&` is halved, an odd run making the `&` itself, and
  backslashes before anything else stay.
* **`substr`** truncates its start and length toward zero as 32-bit numbers; a start below 1
  counts from the first character with the length less the start.
-/

namespace Regress.Awk

/-- How records are separated: by a character, by blank lines, or by a regular expression. -/
inductive RecordSep where
  | char (c : Char)
  | paragraph
  | regex (r : Regex)
  deriving Inhabited

/-- The separation of records `RS` asks for, or why its regular expression is refused. -/
def recordSep (rs : String) : Except String RecordSep :=
  match rs.toList with
  | [] => .ok .paragraph
  | [c] => .ok (.char c)
  | _ => (compileRegex rs).map .regex

/-- The characters of a list from `a` up to `b`. -/
def slice (cs : Array Char) (a b : Nat) : String :=
  String.ofList ((cs.toList.drop a).take (b - a))

/-- Drops the line breaks at the end of a text. -/
def dropTrailingNewlines (cs : List Char) : List Char :=
  (cs.reverse.dropWhile (· == '\n')).reverse

/-- The first blank line of a text, as the place its line breaks start and end. -/
def blankLine (cs : Array Char) : Option (Nat × Nat) :=
  (List.range cs.size).findSome? fun i =>
    if cs.getD i ' ' == '\n' && cs.getD (i + 1) ' ' == '\n' then
      let run := ((cs.toList.drop i).takeWhile (· == '\n')).length
      some (i, i + run)
    else none

/-- The next record of a text and the rest after its separator; `none` at the end. -/
def nextRecord (sep : RecordSep) (text : String) : Option (String × String) :=
  match sep with
  | .char c =>
    if text.isEmpty then none
    else
      let cs := text.toList
      let record := cs.takeWhile (· != c)
      some (String.ofList record, String.ofList (cs.drop (record.length + 1)))
  | .paragraph =>
    let cs := (text.toList.dropWhile (· == '\n')).toArray
    if cs.isEmpty then none
    else match blankLine cs with
      | some (i, j) => some (slice cs 0 i, slice cs j cs.size)
      | none => some (String.ofList (dropTrailingNewlines cs.toList), "")
  | .regex r =>
    if text.isEmpty then none
    else
      let cs := text.toList.toArray
      match r.searchFrom cs 0 with
      | some (s, e, _) =>
        if e > s then some (slice cs 0 s, slice cs e cs.size) else some (text, "")
      | none => some (text, "")

/-- How fields are separated: by runs of blanks, by a character, or by a regular expression. -/
inductive FieldSep where
  | blanks
  | char (c : Char)
  | regex (r : Regex)
  deriving Inhabited

/-- The separation of fields a value of `FS` asks for, or why its regular expression is
refused. -/
def fieldSep (fs : String) : Except String FieldSep :=
  match fs.toList with
  | [' '] => .ok .blanks
  | [c] => .ok (.char c)
  | _ => (compileRegex fs).map .regex

/-- Whether a character separates fields split at blanks. -/
def isFieldBlank (c : Char) : Bool :=
  c == ' ' || c == '\t' || c == '\n'

/-- The words of a text separated by runs of blanks. -/
def blankWords (text : String) : List String :=
  let rec go : Nat → List Char → List String
    | 0, _ => []
    | fuel + 1, cs =>
      let cs := cs.dropWhile isFieldBlank
      if cs.isEmpty then []
      else
        let word := cs.takeWhile (fun c => !isFieldBlank c)
        String.ofList word :: go fuel (cs.drop word.length)
  go (text.length + 1) text.toList

/-- The pieces of a text between the matches of a regular expression from `p`; after a piece
cut by an empty match (`afterEmpty`) the end of the text ends the list. -/
def regexPieces (r : Regex) (cs : Array Char) : Nat → Nat → Bool → List String
  | 0, _, _ => []
  | fuel + 1, p, afterEmpty =>
    if afterEmpty && p ≥ cs.size then []
    else
      match r.searchFrom cs p with
      | none => [slice cs p cs.size]
      | some (s, e, _) =>
        if e > s then slice cs p s :: regexPieces r cs fuel e false
        else if s ≥ cs.size then [slice cs p cs.size]
        else slice cs p (s + 1) :: regexPieces r cs fuel (s + 1) true

/-- The fields of a text. -/
def splitFields (sep : FieldSep) (text : String) : List String :=
  if text.isEmpty then []
  else match sep with
    | .blanks => blankWords text
    | .char c => text.splitOn (String.singleton c)
    | .regex r =>
      let cs := text.toList.toArray
      regexPieces r cs (cs.size + 2) 0 false

/-- The fields of a record; records separated by blank lines also split at line breaks. -/
def recordFields (sep : FieldSep) (paragraph : Bool) (text : String) : List String :=
  match sep with
  | .blanks => splitFields sep text
  | _ =>
    if paragraph && !text.isEmpty then (text.splitOn "\n").flatMap (splitFields sep)
    else splitFields sep text

/-- A piece of a replacement: text, or the matched text. -/
inductive ReplacePiece where
  | text (s : String)
  | matched
  deriving Inhabited

/-- The pieces of a replacement of `sub` and `gsub`. -/
def replacePieces (repl : String) : List ReplacePiece :=
  let rec go : Nat → List Char → String → List ReplacePiece
    | 0, _, acc => [.text acc]
    | _ + 1, [], acc => [.text acc]
    | fuel + 1, c :: rest, acc =>
      if c == '&' then .text acc :: .matched :: go fuel rest ""
      else if c == '\\' then
        let run := (c :: rest).takeWhile (· == '\\')
        let after := (c :: rest).drop run.length
        match after with
        | '&' :: more =>
          let half := String.ofList (List.replicate (run.length / 2) '\\')
          if run.length % 2 == 1 then go fuel more (acc ++ half ++ "&")
          else .text (acc ++ half) :: .matched :: go fuel more ""
        | _ => go fuel after (acc ++ String.ofList run)
      else go fuel rest (acc.push c)
  go (repl.length + 1) repl.toList ""

/-- The replacement of a match. -/
def replacement (pieces : List ReplacePiece) (matched : String) : String :=
  pieces.foldl (fun acc p => match p with
    | .text s => acc ++ s
    | .matched => acc ++ matched) ""

/-- Replaces the matches of a regular expression from `p` on: every one when `global`, else
the first. The text from `p`, the number replaced, and where the last match ended. -/
def substituteFrom (r : Regex) (pieces : List ReplacePiece) (global : Bool) (cs : Array Char) :
    Nat → Nat → Option Nat → String × Nat
  | 0, _, _ => ("", 0)
  | fuel + 1, p, lastEnd =>
    match r.searchFrom cs p with
    | none => (slice cs p cs.size, 0)
    | some (s, e, _) =>
      let repl := replacement pieces (slice cs s e)
      let carryOn (q : Nat) (last : Option Nat) (done : String) (n : Nat) : String × Nat :=
        if global then
          let (rest, m) := substituteFrom r pieces global cs fuel q last
          (done ++ rest, n + m)
        else (done ++ slice cs q cs.size, n)
      if e > s then carryOn e (some e) (slice cs p s ++ repl) 1
      else if lastEnd == some s then
        if s < cs.size then carryOn (s + 1) none (slice cs p (s + 1)) 0
        else (slice cs p cs.size, 0)
      else if s < cs.size then carryOn (s + 1) none (slice cs p s ++ repl ++ slice cs s (s + 1)) 1
      else (slice cs p s ++ repl, 1)

/-- Replaces the matches of a regular expression in a text: the new text and how many were
replaced. -/
def substitute (r : Regex) (repl : String) (global : Bool) (text : String) : String × Nat :=
  let cs := text.toList.toArray
  substituteFrom r (replacePieces repl) global cs (cs.size + 2) 0 none

/-- The first match of a regular expression in a text as awk reports it: its start from 1 and
its length, or 0 and -1. -/
def firstMatch (r : Regex) (text : String) : Nat × Int :=
  match r.search text with
  | some (s, e, _) => (s + 1, (e : Int) - s)
  | none => (0, -1)

/-- Wraps a whole number to 32 bits, signed. -/
def wrap32 (i : Int) : Int :=
  let m := i % 4294967296
  if m ≥ 2147483648 then m - 4294967296 else m

/-- A count as a 32-bit number: truncated toward zero and clamped. -/
def countOf (x : Float) : Int :=
  let most : Int := 2147483647
  match wholeValue? (if x.isNaN then 0 else if x < 0 then Float.ceil x else Float.floor x) with
  | some i => if i > most then most else if i < -most then -most else i
  | none => if x > 0 then most else if x < 0 then -most else 0

/-- `substr` with a start and maybe a length. -/
def substring (s : String) (start : Float) (length : Option Float) : String :=
  let b := countOf start
  let cs := s.toList
  match length with
  | none => String.ofList (cs.drop ((if b < 1 then 1 else b).toNat - 1))
  | some len =>
    let l := countOf len
    let (b, l) := if b < 1 then (1, wrap32 (l - b)) else (b, l)
    if l ≤ 0 then "" else String.ofList ((cs.drop (b.toNat - 1)).take l.toNat)

/-- `index`: where a text first occurs in another, counted from 1; 0 when it does not, and 1
for the empty text. -/
def indexOf (s t : String) : Nat :=
  if t.isEmpty then 1
  else
    let cs := s.toList
    let ts := t.toList
    match (List.range cs.length).find? fun i => (cs.drop i).take ts.length == ts with
    | some i => i + 1
    | none => 0

/-- A text with its ASCII letters made upper or lower case. -/
def mapLetters (upper : Bool) (s : String) : String :=
  s.map fun c => if upper then c.toUpper else c.toLower

end Regress.Awk
