/-!
# One record of comma-separated values

A flag that takes a list reads its value as the first record of a comma-separated text.

* Fields are separated by commas.
* A field that starts with a double quote is quoted: it runs to the next quote that is not
  doubled, may hold commas and line breaks, and a doubled quote in it stands for one quote.
* A quote anywhere in an unquoted field is an error. So is a quoted field whose closing quote
  is followed by something other than a comma or the end of the line, or that is never closed.
* Empty lines before the record are skipped; a text of empty lines has no record at all.
* A carriage return before a line break counts as part of the break.

Errors give the line and the column, counted in bytes from 1, where the reader found the
problem, and the line the record started on when that is another one.
-/

namespace Regress.Csv

/-- Why a text holds no record. -/
inductive CsvError where
  | bareQuote (startLine line column : Nat)
  | badQuote (startLine line column : Nat)
  | endOfInput
  deriving Repr, DecidableEq

/-- Where a parse error is, as the message gives it. -/
def location (startLine line column : Nat) : String :=
  (if startLine != line then "record on line " ++ toString startLine ++ "; " else "") ++
    "parse error on line " ++ toString line ++ ", column " ++ toString column ++ ": "

/-- The message for an error. -/
def CsvError.message : CsvError → String
  | .bareQuote s l c => location s l c ++ "bare \" in non-quoted-field"
  | .badQuote s l c => location s l c ++ "extraneous or missing \" in quoted-field"
  | .endOfInput => "EOF"

/-- The lines of a text, each with its line break, the last one without. A carriage return
before a line break is dropped, and so is one that ends the text. -/
def splitLines (s : String) : List (List Char) :=
  let pieces := s.splitOn "\n"
  let n := pieces.length
  let lines := pieces.zipIdx.filterMap fun (p, i) =>
    let cs := p.toList
    if i + 1 < n then
      let cs := if cs.getLast? == some '\r' then cs.dropLast else cs
      some (cs ++ ['\n'])
    else if cs.isEmpty then none
    else some (if cs.getLast? == some '\r' then cs.dropLast else cs)
  lines

/-- The number of bytes of some characters. -/
def byteLength (cs : List Char) : Nat :=
  cs.foldl (fun n c => n + c.utf8Size) 0

/-- Whether a line is nothing but its line break. -/
def isBlankLine (line : List Char) : Bool :=
  line.isEmpty || line == ['\n']

/-- A line without its line break. -/
def dropBreak (line : List Char) : List Char :=
  if line.getLast? == some '\n' then line.dropLast else line

/-- The state of reading a record: the rest of the current line, the lines after it, the line
the record started on, the number of the current line, and the column reached. -/
structure Cursor where
  line : List Char
  more : List (List Char)
  startLine : Nat
  lineNo : Nat
  column : Nat

mutual

/-- Reads the fields of the record from the cursor on; `acc` holds the fields before it. -/
def fields : Nat → Cursor → List String → Except CsvError (List String)
  | 0, _, acc => .ok acc.reverse
  | fuel + 1, cur, acc =>
    match cur.line with
    | '"' :: rest => quoted fuel { cur with line := rest, column := cur.column + 1 } [] acc
    | line =>
      let (field, after) := match line.idxOf? ',' with
        | some i => (line.take i, some (line.drop (i + 1)))
        | none => (dropBreak line, none)
      match field.idxOf? '"' with
      | some j => .error (.bareQuote cur.startLine cur.lineNo (cur.column + byteLength (field.take j)))
      | none =>
        let acc := String.ofList field :: acc
        match after with
        | some rest =>
          fields fuel { cur with line := rest, column := cur.column + byteLength field + 1 } acc
        | none => .ok acc.reverse

/-- Reads the rest of a quoted field, `buf` holding what it has so far. -/
def quoted : Nat → Cursor → List Char → List String → Except CsvError (List String)
  | 0, _, buf, acc => .ok (String.ofList buf :: acc).reverse
  | fuel + 1, cur, buf, acc =>
    match cur.line.idxOf? '"' with
    | some i =>
      let buf := buf ++ cur.line.take i
      let line := cur.line.drop (i + 1)
      let column := cur.column + byteLength (cur.line.take i) + 1
      match line with
      | '"' :: rest => quoted fuel { cur with line := rest, column := column + 1 } (buf ++ ['"']) acc
      | ',' :: rest => fields fuel { cur with line := rest, column := column + 1 } (String.ofList buf :: acc)
      | _ =>
        if isBlankLine line then .ok (String.ofList buf :: acc).reverse
        else .error (.badQuote cur.startLine cur.lineNo (column - 1))
    | none =>
      if cur.line.isEmpty then .error (.badQuote cur.startLine cur.lineNo cur.column)
      else
        let buf := buf ++ cur.line
        let column := cur.column + byteLength cur.line
        match cur.more with
        | next :: more => quoted fuel { cur with line := next, more, lineNo := cur.lineNo + 1, column := 1 } buf acc
        | [] => quoted fuel { cur with line := [], column } buf acc

end

/-- The first record of a text. An empty text is the empty record. -/
def readRecord (s : String) : Except CsvError (List String) :=
  if s.isEmpty then .ok []
  else
    let lines := splitLines s
    let skipped := lines.takeWhile isBlankLine
    match lines.drop skipped.length with
    | [] => .error .endOfInput
    | line :: more =>
      let n := skipped.length + 1
      fields (s.length + lines.length + 2) ⟨line, more, n, n, 1⟩ []

end Regress.Csv
