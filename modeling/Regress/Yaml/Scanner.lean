import Regress.Text.Utf8
import Regress.Yaml.Token

/-!
# Scanning YAML into tokens

The scanner reads the text once, left to right, and keeps a queue of tokens the parser has not
taken yet. It works ahead only as far as it must: at least three tokens, and further while the
token at the head of the queue could still turn out to be a mapping key. So a problem in the
text is met only when the parser needs the tokens around it. A problem the parser finds earlier
wins. The text itself is read in pieces of 512 bytes, and a character it may not hold (a
control character) stops reading when its piece is first needed.

Two kinds of state shape the tokens.

* **Indentation.** Block collections are laid out by indentation. The scanner keeps a stack of
  the columns of the open block collections. A new entry at a deeper column opens a collection,
  and each step back out closes one with `blockEnd`.
* **Simple keys.** A plain key such as `name: x` has no marker in front of it. A scalar, a
  quoted scalar, an anchor, a tag or an opening bracket is remembered as a possible key, one per
  flow level. When a `:` follows on the same line within 1024 characters, a `key` token is put
  in the queue before it. In block context the key may also open a block mapping. A possible key
  at the current indentation must get its `:`, or reading fails with
  `could not find expected ':'`.

Each loop consumes a character per round or stops, and runs for at most the number of
characters left plus two.
-/

namespace Regress.Yaml

/-- A place where a mapping key may have started. -/
structure SimpleKey where
  possible : Bool
  required : Bool
  tokenNumber : Nat
  mark : Mark
  deriving Repr, Inhabited

/-- The scanner's state between tokens. -/
structure Scanner where
  input : Array Char
  mark : Mark := ⟨0, 0, 0⟩
  queue : List Token := []
  parsed : Nat := 0
  available : Bool := false
  started : Bool := false
  indent : Int := -1
  indents : List Int := []
  keyAllowed : Bool := false
  keys : List SimpleKey := []
  flowLevel : Nat := 0
  readLimit : Option Nat := none
  deriving Inhabited

/-- The scanner's steps: they change its state or stop at a problem. -/
abbrev ScanM := StateT Scanner (Except Problem)

/-- Line breaks: carriage return, line feed, next line, line and paragraph separators. -/
def isBreak (c : Char) : Bool :=
  c == '\r' || c == '\n' || c == '\u0085' || c == '\u2028' || c == '\u2029'

/-- A space or a tab. -/
def isBlank (c : Char) : Bool :=
  c == ' ' || c == '\t'

/-- The end of the text, read as the character zero, which the text itself cannot hold. -/
def isEnd (c : Char) : Bool :=
  c == '\x00'

/-- A line break or the end. -/
def isBreakOrEnd (c : Char) : Bool :=
  isBreak c || isEnd c

/-- A blank, a line break or the end. -/
def isSpaceOrEnd (c : Char) : Bool :=
  isBlank c || isBreak c || isEnd c

/-- Letters, digits, `_` and `-`: the characters of names. -/
def isWordChar (c : Char) : Bool :=
  c.isAlphanum || c == '_' || c == '-'

/-- Whether a character is a hexadecimal digit. -/
def isHexDigit (c : Char) : Bool :=
  c.isDigit || ('a' ≤ c && c ≤ 'f') || ('A' ≤ c && c ≤ 'F')

/-- The value of a hexadecimal digit. -/
def hexValue (c : Char) : Nat :=
  if c.isDigit then c.toNat - '0'.toNat
  else if 'a' ≤ c && c ≤ 'f' then c.toNat - 'a'.toNat + 10
  else c.toNat - 'A'.toNat + 10

/-- The characters a YAML text may hold: tab, line feed, carriage return, printable ASCII, next
line, and the printable planes of Unicode. -/
def allowedChar (c : Char) : Bool :=
  let v := c.toNat
  v == 0x09 || v == 0x0A || v == 0x0D || (0x20 ≤ v && v ≤ 0x7E) || v == 0x85 ||
    (0xA0 ≤ v && v ≤ 0xD7FF) || (0xE000 ≤ v && v ≤ 0xFFFD) || (0x10000 ≤ v && v ≤ 0x10FFFF)

/-- The size of the pieces the text is read in, in bytes. -/
def pieceSize : Nat := 512

/-- The piece that holds the end of the first character the text may not hold, with the text
starting `offset` bytes into the input. -/
def badPiece : List Char → Nat → Option Nat
  | [], _ => none
  | c :: cs, offset =>
    let e := offset + c.utf8Size
    if !allowedChar c then some ((e - 1) / pieceSize) else badPiece cs e

/-- The index of the first character that ends in the piece `piece` or later, counting from
`i`. -/
def firstIn (piece : Nat) : List Char → Nat → Nat → Nat
  | [], _, i => i
  | c :: cs, offset, i =>
    let e := offset + c.utf8Size
    if e - 1 ≥ piece * pieceSize then i else firstIn piece cs e (i + 1)

/-- How many characters can be read before a character the text may not hold is met. The text
is read and checked a piece of `pieceSize` bytes at a time, so such a character is met as soon
as anything in its piece is needed. `offset` bytes before the characters, a byte order mark,
count toward the first piece. -/
def readLimitOf (cs : List Char) (offset : Nat) : Option Nat :=
  (badPiece cs offset).map fun piece => firstIn piece cs offset 0

namespace Scanner

/-- The character `k` places ahead, or the end marker. -/
def ahead (s : Scanner) (k : Nat) : Char :=
  s.input.getD (s.mark.index + k) '\x00'

/-- Whether `---` or `...` followed by a blank or the end lies ahead. -/
def indicatorAhead (s : Scanner) : Bool :=
  ((s.ahead 0 == '-' && s.ahead 1 == '-' && s.ahead 2 == '-') ||
    (s.ahead 0 == '.' && s.ahead 1 == '.' && s.ahead 2 == '.')) && isSpaceOrEnd (s.ahead 3)

/-- A scanner at the start of a text; a leading byte order mark is not part of the text. -/
def start (text : String) : Scanner :=
  let (cs, offset) := match text.toList with
    | '\uFEFF' :: rest => (rest, 3)
    | cs => (cs, 0)
  { input := cs.toArray, readLimit := readLimitOf cs offset }

/-- Reads the next `k` characters from the mark, stopping when that brings in a character the
text may not hold. -/
def need (k : Nat) : ScanM Unit := do
  let s ← get
  match s.readLimit with
  | some limit =>
    if s.mark.index + k > limit then throw (Problem.plain "control characters are not allowed")
  | none => pure ()

/-- How many rounds any loop over the rest of the text may take. -/
def fuel : ScanM Nat := do
  let s ← get
  pure (s.input.size - s.mark.index + 2)

/-- Moves past one character on the current line. -/
def skip : ScanM Unit :=
  modify fun s => { s with mark := ⟨s.mark.index + 1, s.mark.line, s.mark.column + 1⟩ }

/-- Moves past a line break; a carriage return and line feed count as one. -/
def skipLine : ScanM Unit :=
  modify fun s =>
    if s.ahead 0 == '\r' && s.ahead 1 == '\n' then
      { s with mark := ⟨s.mark.index + 2, s.mark.line + 1, 0⟩ }
    else if isBreak (s.ahead 0) then
      { s with mark := ⟨s.mark.index + 1, s.mark.line + 1, 0⟩ }
    else s

/-- Moves past one character and adds it to `acc`. -/
def readChar (acc : String) : ScanM String := do
  let c := (← get).ahead 0
  skip
  pure (acc.push c)

/-- Moves past a line break and adds it to `acc` as a line feed; the line and paragraph
separators are kept as they are. -/
def readLine (acc : String) : ScanM String := do
  let s ← get
  let c := s.ahead 0
  if c == '\r' && s.ahead 1 == '\n' then
    set { s with mark := ⟨s.mark.index + 2, s.mark.line + 1, 0⟩ }
    pure (acc.push '\n')
  else if c == '\r' || c == '\n' || c == '\u0085' then
    set { s with mark := ⟨s.mark.index + 1, s.mark.line + 1, 0⟩ }
    pure (acc.push '\n')
  else if c == '\u2028' || c == '\u2029' then
    set { s with mark := ⟨s.mark.index + 1, s.mark.line + 1, 0⟩ }
    pure (acc.push c)
  else pure acc

/-- Moves on while the next character passes `p`. -/
def skipWhile (p : Char → Bool) : ScanM Unit := do
  for _ in [0:(← fuel)] do
    if p ((← get).ahead 0) then skip else break

/-- Stops at a problem found here, in the construct that started at `context`. The character
here has been read. -/
def fail (context : Mark) (problem : String) : ScanM α := do
  need 1
  throw ⟨problem, (← get).mark, context, true⟩

/-- Stops at a problem found here. -/
def failHere (problem : String) : ScanM α := do
  need 1
  let m := (← get).mark
  throw ⟨problem, m, m, true⟩

/-- Puts a token at the end of the queue, or `k` places after its head. -/
def insertToken (k : Option Nat) (t : Token) : ScanM Unit :=
  modify fun s => { s with queue := match k with
    | none => s.queue ++ [t]
    | some i => s.queue.take i ++ t :: s.queue.drop i }

/-- Puts a token with both marks at `m` at the end of the queue. -/
def emit (kind : TokenKind) (m : Mark) : ScanM Unit :=
  insertToken none ⟨kind, m, m⟩

/-- Replaces the innermost possible key. -/
def setTopKey (k : SimpleKey) : ScanM Unit :=
  modify fun s => { s with keys := match s.keys with
    | _ :: rest => k :: rest
    | [] => [k] }

/-- The innermost possible key. -/
def topKey : ScanM SimpleKey := do
  pure ((← get).keys.headD ⟨false, false, 0, ⟨0, 0, 0⟩⟩)

/-- Forgets the innermost possible key; a required one is a problem. -/
def removeSimpleKey : ScanM Unit := do
  let k ← topKey
  if k.possible then
    if k.required then fail k.mark "could not find expected ':'"
    setTopKey { k with possible := false }

/-- Remembers the current place as a possible key, where keys are allowed. It is required when
it is in block context at the current indentation. -/
def saveSimpleKey : ScanM Unit := do
  let s ← get
  if s.keyAllowed then
    let required := s.flowLevel == 0 && s.indent == (s.mark.column : Int)
    let k : SimpleKey := ⟨true, required, s.parsed + s.queue.length, s.mark⟩
    removeSimpleKey
    setTopKey k

/-- Whether a possible key can still be one: it must be on the current line and at most 1024
characters back. One that can no longer be is dropped, and a required one is a problem. -/
def keyValid (k : SimpleKey) : ScanM (Bool × SimpleKey) := do
  if !k.possible then return (false, k)
  let s ← get
  if k.mark.line < s.mark.line || k.mark.index + 1024 < s.mark.index then
    if k.required then fail k.mark "could not find expected ':'"
    return (false, { k with possible := false })
  return (true, k)

/-- Enters a flow collection, with room for its own possible key. -/
def increaseFlowLevel : ScanM Unit := do
  modify fun s => { s with keys := ⟨false, false, 0, s.mark⟩ :: s.keys, flowLevel := s.flowLevel + 1 }
  let s ← get
  if s.flowLevel > 10000 then fail s.mark "exceeded max depth of 10000"

/-- Leaves a flow collection. -/
def decreaseFlowLevel : ScanM Unit :=
  modify fun s =>
    if s.flowLevel > 0 then { s with flowLevel := s.flowLevel - 1, keys := s.keys.tail } else s

/-- In block context, opens a collection at `column` when it is deeper than the current
indentation: the token `kind` goes into the queue where token number `number` is, or at the
end. -/
def rollIndent (column : Int) (number : Option Nat) (kind : TokenKind) (m : Mark) : ScanM Unit := do
  let s ← get
  if s.flowLevel > 0 then return
  if s.indent < column then
    set { s with indents := s.indent :: s.indents, indent := column }
    if s.indents.length + 1 > 10000 then fail (← topKey).mark "exceeded max depth of 10000"
    insertToken (number.map (· - s.parsed)) ⟨kind, m, m⟩

/-- In block context, closes every collection deeper than `column`. -/
def unrollIndent (column : Int) (scanMark : Mark) : ScanM Unit := do
  let s ← get
  if s.flowLevel > 0 then return
  let m : Mark := { scanMark with index := scanMark.index - 1 }
  for _ in [0:s.indents.length + 1] do
    let s ← get
    if s.indent > column then
      emit .blockEnd m
      modify fun s => match s.indents with
        | i :: rest => { s with indent := i, indents := rest }
        | [] => { s with indent := -1 }
    else break

/-- Skips blanks, comments and line breaks up to the next token. A tab is skipped only in flow
context or where no key may start; a new line in block context allows a key again. -/
def scanToNextToken : ScanM Unit := do
  for _ in [0:(← fuel)] do
    let s ← get
    if s.mark.column == 0 && s.ahead 0 == '\uFEFF' then skip
    let tabs := s.flowLevel > 0 || !s.keyAllowed
    skipWhile fun c => c == ' ' || (tabs && c == '\t')
    if (← get).ahead 0 == '#' then skipWhile fun c => !isBreakOrEnd c
    let s ← get
    if isBreak (s.ahead 0) then
      skipLine
      if s.flowLevel == 0 then modify fun s => { s with keyAllowed := true }
    else break

/-- Reads a version number of one or two digits. -/
def versionNumber (start : Mark) : ScanM Nat := do
  let mut value := 0
  let mut length := 0
  for _ in [0:(← fuel)] do
    let c := (← get).ahead 0
    if c.isDigit then
      length := length + 1
      if length > 2 then fail start "found extremely long version number"
      value := value * 10 + (c.toNat - '0'.toNat)
      skip
    else break
  if length == 0 then fail start "did not find expected version number"
  pure value

/-- Reads a tag handle: `!`, `!!` or `!name!`. In a directive it must end with `!`. -/
def scanTagHandle (directive : Bool) (start : Mark) : ScanM String := do
  if (← get).ahead 0 != '!' then fail start "did not find expected '!'"
  let mut s := "!"
  skip
  for _ in [0:(← fuel)] do
    let c := (← get).ahead 0
    if isWordChar c then
      s := s.push c
      skip
    else break
  if (← get).ahead 0 == '!' then
    s := s.push '!'
    skip
  else if directive && s != "!" then fail start "did not find expected '!'"
  pure s

/-- Whether a character may stand in a tag; flow indicators only between `<` and `>`. -/
def uriChar (verbatim : Bool) (c : Char) : Bool :=
  isWordChar c || ";/?:@&=+$.!~*'()%".toList.contains c || (verbatim && ",[]".toList.contains c)

/-- Reads `%XX` escapes that spell one UTF-8 character. -/
def scanUriEscapes (start : Mark) : ScanM (List UInt8) := do
  let mut octets : List UInt8 := []
  let mut width := 0
  for _ in [0:4] do
    let s ← get
    if !(s.ahead 0 == '%' && isHexDigit (s.ahead 1) && isHexDigit (s.ahead 2)) then
      fail start "did not find URI escaped octet"
    let o := hexValue (s.ahead 1) * 16 + hexValue (s.ahead 2)
    if octets.isEmpty then
      width := if o < 0x80 then 1 else if o / 32 == 6 then 2 else if o / 16 == 14 then 3
        else if o / 8 == 30 then 4 else 0
      if width == 0 then fail start "found an incorrect leading UTF-8 octet"
    else if o / 64 != 2 then fail start "found an incorrect trailing UTF-8 octet"
    octets := octets ++ [o.toUInt8]
    skip; skip; skip
    if octets.length ≥ width then break
  pure octets

/-- Reads the rest of a tag after the characters of `head` past its first. -/
def scanTagUri (verbatim : Bool) (head : String) (start : Mark) : ScanM String := do
  let mut s := String.ofList (head.toList.drop 1)
  let mut hasTag := !head.isEmpty
  for _ in [0:(← fuel)] do
    let c := (← get).ahead 0
    if uriChar verbatim c then
      if c == '%' then
        let octets ← scanUriEscapes start
        s := s ++ Utf8.decode octets
      else s ← readChar s
      hasTag := true
    else break
  if !hasTag then fail start "did not find expected tag URI"
  pure s

/-- Reads a `%YAML` or `%TAG` directive and the rest of its line. -/
def scanDirective : ScanM Token := do
  let start := (← get).mark
  skip
  let mut name := ""
  for _ in [0:(← fuel)] do
    let c := (← get).ahead 0
    if isWordChar c then
      name := name.push c
      skip
    else break
  if name.isEmpty then fail start "could not find expected directive name"
  if !isSpaceOrEnd ((← get).ahead 0) then fail start "found unexpected non-alphabetical character"
  let kind ←
    if name == "YAML" then do
      skipWhile isBlank
      let major ← versionNumber start
      if (← get).ahead 0 != '.' then fail start "did not find expected digit or '.' character"
      skip
      let minor ← versionNumber start
      pure (TokenKind.versionDirective major minor)
    else if name == "TAG" then do
      skipWhile isBlank
      let handle ← scanTagHandle true start
      if !isBlank ((← get).ahead 0) then fail start "did not find expected whitespace"
      skipWhile isBlank
      let pfx ← scanTagUri true "" start
      if !isSpaceOrEnd ((← get).ahead 0) then fail start "did not find expected whitespace or line break"
      pure (TokenKind.tagDirective handle pfx)
    else fail start "found unknown directive name"
  let stop := (← get).mark
  skipWhile isBlank
  if (← get).ahead 0 == '#' then skipWhile fun c => !isBreakOrEnd c
  if !isBreakOrEnd ((← get).ahead 0) then fail start "did not find expected comment or line break"
  if isBreak ((← get).ahead 0) then skipLine
  pure ⟨kind, start, stop⟩

/-- Reads an anchor `&name` or an alias `*name`. -/
def scanAnchor (isAlias : Bool) : ScanM Token := do
  let start := (← get).mark
  skip
  let mut name := ""
  for _ in [0:(← fuel)] do
    let c := (← get).ahead 0
    if isWordChar c then
      name := name.push c
      skip
    else break
  let stop := (← get).mark
  let c := (← get).ahead 0
  if name.isEmpty || !(isSpaceOrEnd c || "?:,]\x7d%@\x60".toList.contains c) then
    fail start "did not find expected alphabetic or numeric character"
  pure ⟨if isAlias then .alias name else .anchor name, start, stop⟩

/-- Reads a tag: `!<uri>`, `!handle!suffix`, `!suffix` or a lone `!`. -/
def scanTag : ScanM Token := do
  let start := (← get).mark
  let (handle, suffix) ←
    if (← get).ahead 1 == '<' then do
      skip; skip
      let suffix ← scanTagUri true "" start
      if (← get).ahead 0 != '>' then fail start "did not find the expected '>'"
      skip
      pure ("", suffix)
    else do
      let handle ← scanTagHandle false start
      if handle.length > 1 && handle.endsWith "!" then
        let suffix ← scanTagUri false "" start
        pure (handle, suffix)
      else
        let suffix ← scanTagUri false handle start
        if suffix.isEmpty then pure ("", "!") else pure ("!", suffix)
  let s ← get
  if !isSpaceOrEnd (s.ahead 0) then
    if s.flowLevel == 0 || s.ahead 0 != ',' then fail start "did not find expected whitespace or line break"
  pure ⟨.tag handle suffix, start, (← get).mark⟩

/-- The text of a one-character escape in a double-quoted scalar. -/
def simpleEscape : Char → Option String
  | '0' => some "\x00"
  | 'a' => some "\x07"
  | 'b' => some "\x08"
  | 't' => some "\t"
  | '\t' => some "\t"
  | 'n' => some "\n"
  | 'v' => some "\x0b"
  | 'f' => some "\x0c"
  | 'r' => some "\r"
  | 'e' => some "\x1b"
  | ' ' => some " "
  | '"' => some "\""
  | '\'' => some "'"
  | '\\' => some "\\"
  | 'N' => some "\u0085"
  | '_' => some "\u00A0"
  | 'L' => some "\u2028"
  | 'P' => some "\u2029"
  | _ => none

/-- Joins the line breaks and blanks between two pieces of a flowing scalar: a single line
feed folds to a space, more keep all but the first, other breaks stay. -/
def fold (leadingBreak trailingBreaks : String) : String :=
  if leadingBreak.front == '\n' && !leadingBreak.isEmpty then
    if trailingBreaks.isEmpty then " " else trailingBreaks
  else leadingBreak ++ trailingBreaks

/-- Reads a single- or double-quoted scalar. -/
def scanQuoted (single : Bool) : ScanM Token := do
  let start := (← get).mark
  skip
  let mut s := ""
  let mut leadingBreak := ""
  let mut trailingBreaks := ""
  let mut whitespaces := ""
  for _ in [0:(← fuel)] do
    let st ← get
    if st.mark.column == 0 && st.indicatorAhead then fail start "found unexpected document indicator"
    if isEnd (st.ahead 0) then fail start "found unexpected end of stream"
    let mut leadingBlanks := false
    for _ in [0:(← fuel)] do
      let st ← get
      let c := st.ahead 0
      if isSpaceOrEnd c then break
      if single && c == '\'' && st.ahead 1 == '\'' then
        s := s.push '\''
        skip; skip
      else if single && c == '\'' then break
      else if !single && c == '"' then break
      else if !single && c == '\\' && isBreak (st.ahead 1) then
        skip
        skipLine
        leadingBlanks := true
        break
      else if !single && c == '\\' then
        match simpleEscape (st.ahead 1) with
        | some t =>
          s := s ++ t
          skip; skip
        | none =>
          let e := st.ahead 1
          let len := if e == 'x' then 2 else if e == 'u' then 4 else if e == 'U' then 8 else 0
          if len == 0 then fail start "found unknown escape character"
          skip; skip
          let st ← get
          let mut value := 0
          for k in [0:len] do
            if !isHexDigit (st.ahead k) then fail start "did not find expected hexdecimal number"
            value := value * 16 + hexValue (st.ahead k)
          if (0xD800 ≤ value && value ≤ 0xDFFF) || value > 0x10FFFF then
            fail start "found invalid Unicode character escape code"
          s := s.push (Char.ofNat value)
          for _ in [0:len] do skip
      else s ← readChar s
    let c := (← get).ahead 0
    if single && c == '\'' then break
    if !single && c == '"' then break
    for _ in [0:(← fuel)] do
      let c := (← get).ahead 0
      if isBlank c then
        if !leadingBlanks then whitespaces := whitespaces.push c
        skip
      else if isBreak c then
        if !leadingBlanks then
          whitespaces := ""
          leadingBreak ← readLine leadingBreak
          leadingBlanks := true
        else trailingBreaks ← readLine trailingBreaks
      else break
    if leadingBlanks then
      s := s ++ fold leadingBreak trailingBreaks
      leadingBreak := ""
      trailingBreaks := ""
    else
      s := s ++ whitespaces
      whitespaces := ""
  skip
  pure ⟨.scalar s (if single then .singleQuoted else .doubleQuoted), start, (← get).mark⟩

/-- Skips the indentation and empty lines before a line of a block scalar, adding the breaks to
`breaks`. An indentation of zero is not yet known: it becomes the deepest indentation among the
empty lines, at least one more than the enclosing block and at least one. -/
def blockScalarBreaks (indent : Int) (breaks : String) (start : Mark) :
    ScanM (Int × String × Mark) := do
  let mut stop := (← get).mark
  let mut maxIndent : Nat := 0
  let mut breaks := breaks
  for _ in [0:(← fuel)] do
    skipIndent indent
    let st ← get
    if st.mark.column > maxIndent then maxIndent := st.mark.column
    if (indent == 0 || (st.mark.column : Int) < indent) && st.ahead 0 == '\t' then
      fail start "found a tab character where an indentation space is expected"
    if !isBreak (st.ahead 0) then break
    breaks ← readLine breaks
    stop := (← get).mark
  let mut indent := indent
  if indent == 0 then
    let outer := (← get).indent
    indent := max (max maxIndent (outer + 1)) 1
  pure (indent, breaks, stop)
where
  /-- Skips spaces up to the indentation, or all of them while it is not known. -/
  skipIndent (indent : Int) : ScanM Unit := do
    for _ in [0:(← fuel)] do
      let st ← get
      if (indent == 0 || (st.mark.column : Int) < indent) && st.ahead 0 == ' ' then skip else break

/-- Reads a literal (`|`) or folded (`>`) block scalar with its header. -/
def scanBlockScalar (literal : Bool) : ScanM Token := do
  let start := (← get).mark
  skip
  let mut chomping : Int := 0
  let mut increment : Nat := 0
  let c := (← get).ahead 0
  if c == '+' || c == '-' then
    chomping := if c == '+' then 1 else -1
    skip
    let d := (← get).ahead 0
    if d.isDigit then
      if d == '0' then fail start "found an indentation indicator equal to 0"
      increment := d.toNat - '0'.toNat
      skip
  else if c.isDigit then
    if c == '0' then fail start "found an indentation indicator equal to 0"
    increment := c.toNat - '0'.toNat
    skip
    let d := (← get).ahead 0
    if d == '+' || d == '-' then
      chomping := if d == '+' then 1 else -1
      skip
  skipWhile isBlank
  if (← get).ahead 0 == '#' then skipWhile fun c => !isBreakOrEnd c
  if !isBreakOrEnd ((← get).ahead 0) then fail start "did not find expected comment or line break"
  if isBreak ((← get).ahead 0) then skipLine
  let outer := (← get).indent
  let mut indent : Int := 0
  if increment > 0 then
    indent := if outer ≥ 0 then outer + increment else increment
  let mut s := ""
  let mut leadingBreak := ""
  let (i, tb, m) ← blockScalarBreaks indent "" start
  indent := i
  let mut trailingBreaks := tb
  let mut stop := m
  let mut leadingBlank := false
  for _ in [0:(← fuel)] do
    let st ← get
    if !((st.mark.column : Int) == indent && !isEnd (st.ahead 0)) then break
    let trailingBlank := isBlank (st.ahead 0)
    if !literal && !leadingBlank && !trailingBlank && leadingBreak.front == '\n' &&
        !leadingBreak.isEmpty then
      if trailingBreaks.isEmpty then s := s.push ' '
    else s := s ++ leadingBreak
    leadingBreak := ""
    s := s ++ trailingBreaks
    trailingBreaks := ""
    leadingBlank := isBlank (st.ahead 0)
    for _ in [0:(← fuel)] do
      if isBreakOrEnd ((← get).ahead 0) then break
      s ← readChar s
    leadingBreak ← readLine leadingBreak
    let (i, tb, m) ← blockScalarBreaks indent "" start
    indent := i
    trailingBreaks := tb
    stop := m
  if chomping != -1 then s := s ++ leadingBreak
  if chomping == 1 then s := s ++ trailingBreaks
  pure ⟨.scalar s (if literal then .literal else .folded), start, stop⟩

/-- Reads a plain scalar. It ends before `: `, before ` #`, at a document marker, at a flow
indicator in flow context, and in block context at a line indented no deeper than the enclosing
block. Its lines are folded. After a scalar that spans lines a key may start. -/
def scanPlain : ScanM Token := do
  let st0 ← get
  let indent : Int := st0.indent + 1
  let start := st0.mark
  let mut stop := st0.mark
  let mut s := ""
  let mut leadingBreak := ""
  let mut trailingBreaks := ""
  let mut whitespaces := ""
  let mut leadingBlanks := false
  for _ in [0:(← fuel)] do
    let st ← get
    if st.mark.column == 0 && st.indicatorAhead then break
    if st.ahead 0 == '#' then break
    for _ in [0:(← fuel)] do
      let st ← get
      let c := st.ahead 0
      if isSpaceOrEnd c then break
      if (c == ':' && isSpaceOrEnd (st.ahead 1)) ||
          (st.flowLevel > 0 && (c == ',' || c == '?' || c == '[' || c == ']' || c == '{' || c == '}')) then
        break
      if leadingBlanks then
        s := s ++ fold leadingBreak trailingBreaks
        trailingBreaks := ""
        leadingBreak := ""
        leadingBlanks := false
      else if !whitespaces.isEmpty then
        s := s ++ whitespaces
        whitespaces := ""
      s ← readChar s
      stop := (← get).mark
    let c := (← get).ahead 0
    if !(isBlank c || isBreak c) then break
    for _ in [0:(← fuel)] do
      let st ← get
      let c := st.ahead 0
      if isBlank c then
        if leadingBlanks && (st.mark.column : Int) < indent && c == '\t' then
          fail start "found a tab character that violates indentation"
        if !leadingBlanks then whitespaces := whitespaces.push c
        skip
      else if isBreak c then
        if !leadingBlanks then
          whitespaces := ""
          leadingBreak ← readLine leadingBreak
          leadingBlanks := true
        else trailingBreaks ← readLine trailingBreaks
      else break
    let st ← get
    if st.flowLevel == 0 && (st.mark.column : Int) < indent then break
  if leadingBlanks then modify fun s => { s with keyAllowed := true }
  pure ⟨.scalar s .plain, start, stop⟩

/-- Puts a token read by `scan` at the end of the queue. -/
def push (scan : ScanM Token) : ScanM Unit := do
  let t ← scan
  insertToken none t

/-- Moves past `n` characters and queues a token of `kind` spanning them. -/
def punctuation (kind : TokenKind) (n : Nat) : ScanM Unit := do
  let start := (← get).mark
  for _ in [0:n] do skip
  insertToken none ⟨kind, start, (← get).mark⟩

/-- The `:` of a mapping entry. After a possible key on this line a `key` token goes in front
of that key, opening a block mapping where it is deeper. Otherwise, in block context, the `:`
must stand where a key may start. -/
def fetchValue : ScanM Unit := do
  let st ← get
  let (valid, k) ← keyValid (← topKey)
  setTopKey k
  if valid then
    insertToken (some (k.tokenNumber - st.parsed)) ⟨.key, k.mark, k.mark⟩
    rollIndent k.mark.column (some k.tokenNumber) .blockMappingStart k.mark
    setTopKey { k with possible := false }
    modify fun s => { s with keyAllowed := false }
  else
    if st.flowLevel == 0 then
      if !st.keyAllowed then failHere "mapping values are not allowed in this context"
      rollIndent st.mark.column none .blockMappingStart st.mark
    modify fun s => { s with keyAllowed := s.flowLevel == 0 }
  punctuation .value 1

/-- Whether the next character may start a plain scalar. -/
def plainStart (s : Scanner) : Bool :=
  let c := s.ahead 0
  !(isSpaceOrEnd c || "-?:,[]\x7b\x7d#&*!|>\x27\x22%@\x60".toList.contains c) ||
    (c == '-' && !isBlank (s.ahead 1)) ||
    (s.flowLevel == 0 && (c == '?' || c == ':') && !isSpaceOrEnd (s.ahead 1))

/-- Reads the next token, with any tokens it implies, into the queue. -/
def fetchToken : ScanM Unit := do
  need 1
  let st ← get
  if !st.started then
    set { st with indent := -1, keyAllowed := true, keys := [⟨false, false, 0, st.mark⟩],
                  started := true }
    emit .streamStart st.mark
    return
  let scanMark := st.mark
  scanToNextToken
  unrollIndent ((← get).mark.column : Int) scanMark
  need 4
  let st ← get
  let c := st.ahead 0
  let atColumnZero := st.mark.column == 0
  if isEnd c then
    if st.mark.column != 0 then
      set { st with mark := { st.mark with column := 0, line := st.mark.line + 1 } }
    unrollIndent (-1) (← get).mark
    removeSimpleKey
    modify fun s => { s with keyAllowed := false }
    emit .streamEnd (← get).mark
  else if atColumnZero && c == '%' then
    unrollIndent (-1) st.mark
    removeSimpleKey
    modify fun s => { s with keyAllowed := false }
    push scanDirective
  else if atColumnZero && st.indicatorAhead then
    unrollIndent (-1) st.mark
    removeSimpleKey
    modify fun s => { s with keyAllowed := false }
    punctuation (if c == '-' then .documentStart else .documentEnd) 3
  else if c == '[' || c == '{' then
    saveSimpleKey
    increaseFlowLevel
    modify fun s => { s with keyAllowed := true }
    punctuation (if c == '[' then .flowSequenceStart else .flowMappingStart) 1
  else if c == ']' || c == '}' then
    removeSimpleKey
    decreaseFlowLevel
    modify fun s => { s with keyAllowed := false }
    punctuation (if c == ']' then .flowSequenceEnd else .flowMappingEnd) 1
  else if c == ',' then
    removeSimpleKey
    modify fun s => { s with keyAllowed := true }
    punctuation .flowEntry 1
  else if c == '-' && isSpaceOrEnd (st.ahead 1) then
    if st.flowLevel == 0 then
      if !st.keyAllowed then failHere "block sequence entries are not allowed in this context"
      rollIndent st.mark.column none .blockSequenceStart st.mark
    removeSimpleKey
    modify fun s => { s with keyAllowed := true }
    punctuation .blockEntry 1
  else if c == '?' && (st.flowLevel > 0 || isSpaceOrEnd (st.ahead 1)) then
    if st.flowLevel == 0 then
      if !st.keyAllowed then failHere "mapping keys are not allowed in this context"
      rollIndent st.mark.column none .blockMappingStart st.mark
    removeSimpleKey
    modify fun s => { s with keyAllowed := s.flowLevel == 0 }
    punctuation .key 1
  else if c == ':' && (st.flowLevel > 0 || isSpaceOrEnd (st.ahead 1)) then
    fetchValue
  else if c == '*' || c == '&' then
    saveSimpleKey
    modify fun s => { s with keyAllowed := false }
    push (scanAnchor (c == '*'))
  else if c == '!' then
    saveSimpleKey
    modify fun s => { s with keyAllowed := false }
    push scanTag
  else if (c == '|' || c == '>') && st.flowLevel == 0 then
    removeSimpleKey
    modify fun s => { s with keyAllowed := true }
    push (scanBlockScalar (c == '|'))
  else if c == '\'' || c == '"' then
    saveSimpleKey
    modify fun s => { s with keyAllowed := false }
    push (scanQuoted (c == '\''))
  else if plainStart st then
    saveSimpleKey
    modify fun s => { s with keyAllowed := false }
    push scanPlain
  else failHere "found character that cannot start any token"

/-- Reads the next token, with any tokens it implies, into the queue, and the character after
it. -/
def fetchNextToken : ScanM Unit := do
  fetchToken
  need 1

/-- Whether a possible key would become the head of the queue: its `:` decides what goes
first, so the scanner must read on. -/
def headKey? (s : Scanner) : Option Nat :=
  s.keys.findIdx? fun k => k.possible && k.tokenNumber == s.parsed

/-- Fills the queue: at least three tokens, and on while a possible key at its head is still
open. -/
def fetchMoreTokens : ScanM Unit := do
  let rounds := 4 * ((← get).input.size + 4)
  for _ in [0:rounds] do
    let s ← get
    if s.queue.length ≥ 3 then
      match headKey? s with
      | none => break
      | some i =>
        let (valid, k) ← keyValid (s.keys.getD i default)
        modify fun s => { s with keys := s.keys.set i k }
        if !valid then break
    fetchNextToken
  modify fun s => { s with available := true }

/-- The token at the head of the queue. -/
def peek : ScanM Token := do
  let s ← get
  if !s.available then fetchMoreTokens
  match (← get).queue with
  | t :: _ => pure t
  | [] => pure ⟨.streamEnd, (← get).mark, (← get).mark⟩

/-- Takes the token at the head of the queue. -/
def skipToken : ScanM Unit :=
  modify fun s => { s with available := false, parsed := s.parsed + 1, queue := s.queue.drop 1 }

end Scanner

end Regress.Yaml
