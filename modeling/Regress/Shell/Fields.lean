import Regress.FileTree
import Regress.Shell.Pattern

/-!
# Fields

What the expansions of a word produce, and how that becomes the fields a command receives.

An expanded word is a list of pieces: text that came from the script, text that came from an
unquoted expansion and may be split, quoted text, and the breaks between the parameters of
`"$@"`. Every character keeps whether it was quoted.

* **Splitting** (`splitFields`). The text of unquoted expansions is cut at the characters of
  `IFS`. Blanks of `IFS` (space, tab, line feed) at the ends are dropped and a run of them is one
  separator; every other `IFS` character is a separator of its own, together with the blanks
  around it, so two of them in a row leave an empty field between them. Nothing after the last
  separator makes no field. A word whose pieces give no character and no quotes vanishes.
* **File names** (`expandNames`). A field with an unquoted `*`, `?` or `[` is a pattern for
  file names, matched one path element at a time. A name that starts with a dot is matched
  only by a pattern element that starts with a dot, and the names found are sorted by their
  bytes. A pattern that matches nothing stays as it is.
-/

namespace Regress.Shell

/-- A piece of an expanded word: text that may be split into fields or not, and that was quoted
or not; or a break between the fields of `"$@"`. -/
inductive Piece where
  | text (s : String) (split : Bool) (quoted : Bool)
  | fieldBreak
  deriving Repr, DecidableEq, Inhabited

/-- A field being built: its characters, each marked when it was quoted. -/
abbrev Field := List (Char × Bool)

/-- The text of a field. -/
def Field.text (f : Field) : String :=
  String.ofList (f.map (·.1))

/-- Where splitting stands: at the start of a word, inside a field, after a separator of
blanks, or after a separator with another `IFS` character. -/
inductive SplitState where
  | start
  | inField
  | afterBlank
  | afterOther
  deriving Repr, DecidableEq, Inhabited

/-- Fields being collected: the finished ones (last first), the current one, and where
splitting stands. -/
structure Splitter where
  done : List Field := []
  current : Field := []
  state : SplitState := .start

/-- The blanks that `IFS` may hold. -/
def isIfsBlank (c : Char) : Bool :=
  c == ' ' || c == '\t' || c == '\n'

namespace Splitter

/-- Ends the current field. -/
def emit (st : Splitter) : Splitter :=
  { st with done := st.current :: st.done, current := [] }

/-- Adds a character that is not a separator. -/
def keep (st : Splitter) (c : Char) (quoted : Bool) : Splitter :=
  { st with current := st.current ++ [(c, quoted)], state := .inField }

/-- Adds a character of a splittable piece. -/
def addSplit (ifs : List Char) (st : Splitter) (c : Char) : Splitter :=
  if !ifs.contains c then st.keep c false
  else if isIfsBlank c then
    match st.state with
    | .inField => { st.emit with state := .afterBlank }
    | _ => st
  else
    match st.state with
    | .inField => { st.emit with state := .afterOther }
    | .afterBlank => { st with state := .afterOther }
    | .start | .afterOther => { st.emit with state := .afterOther }

/-- Adds a piece. -/
def add (ifs : List Char) (st : Splitter) : Piece → Splitter
  | .fieldBreak => if st.state == .inField then { st.emit with state := .start } else st
  | .text s true _ => s.toList.foldl (addSplit ifs) st
  | .text s false q =>
    if s.isEmpty then
      if q then { st with state := .inField } else st
    else s.toList.foldl (fun st c => st.keep c q) st

end Splitter

/-- The fields of an expanded word, split at the characters of `ifs`. -/
def splitFields (ifs : String) (ps : List Piece) : List Field :=
  let st := ps.foldl (Splitter.add ifs.toList) {}
  let st := if st.state == .inField then st.emit else st
  st.done.reverse

/-- The text of an expanded word without splitting it. -/
def joinPieces (ps : List Piece) : String :=
  String.join (ps.map fun
    | .text s _ _ => s
    | .fieldBreak => " ")

/-- The characters of an expanded word, each marked when it was quoted. -/
def piecesField (ps : List Piece) : Field :=
  ps.flatMap fun
    | .text s _ q => s.toList.map (·, q)
    | .fieldBreak => [(' ', true)]

/-! ## File names -/

/-- Whether a field holds an unquoted pattern character. -/
def Field.hasPattern (f : Field) : Bool :=
  f.any fun (c, q) => !q && (c == '*' || c == '?' || c == '[')

/-- Cuts a field into path elements at its slashes. -/
def splitPath : Field → List Field
  | [] => [[]]
  | ('/', _) :: rest => [] :: splitPath rest
  | c :: rest =>
    match splitPath rest with
    | first :: more => (c :: first) :: more
    | [] => [[c]]

/-- The names in a directory that a pattern element matches, sorted: a name that starts with a
dot only when the element starts with one, and then `.` and `..` as well. -/
def matchingNames (t : FileTree) (dir : List String) (element : Field) : List String :=
  let names := (t.children dir).map (·.1)
  let dotted := element.head?.any (·.1 == '.')
  let names := if dotted then "." :: ".." :: names else names.filter (!·.startsWith ".")
  let p := patternOf (element.length + 1) element
  (names.filter fun n => PatternElem.matchAll p n.toList).mergeSort fun a b => decide (a ≤ b)

/-- The paths a pattern's elements match below the directory `dir` (absolute), written after
`prefix`. -/
def expandElements (t : FileTree) : List Field → List String → String → List String
  | [], _, pre => [pre]
  | element :: rest, dir, pre =>
    let sep := if pre.isEmpty || pre.endsWith "/" then "" else "/"
    if element.hasPattern then
      (matchingNames t dir element).flatMap fun n =>
        let sub := if n == "." then dir else if n == ".." then dir.dropLast else dir ++ [n]
        if rest.isEmpty then [pre ++ sep ++ n]
        else if t.get? sub == some .dir then expandElements t rest sub (pre ++ sep ++ n)
        else []
    else
      let n := element.text
      let sub := if n == "." || n.isEmpty then dir else if n == ".." then dir.dropLast else dir ++ [n]
      if rest.isEmpty then
        if (t.get? sub).isSome then [pre ++ sep ++ n] else []
      else if t.get? sub == some .dir then expandElements t rest sub (pre ++ sep ++ n)
      else []

/-- The file names a field stands for: the paths its pattern matches, sorted, or the field's
own text when it holds no pattern or matches nothing. -/
def expandNames (t : FileTree) (cwd : List String) (f : Field) : List String :=
  if !f.hasPattern then [f.text]
  else
    let found := match splitPath f with
      | [] :: rest => expandElements t rest [] "/"
      | elements => expandElements t elements cwd ""
    let found := found.mergeSort fun a b => decide (a ≤ b)
    if found.isEmpty then [f.text] else found

end Regress.Shell
