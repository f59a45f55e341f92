/-!
# Names in messages

The utilities show names in their messages in one of three ways, all on octet texts in the C
locale, where only the bytes from space to tilde print:

* **Locale quoting** (`quoteName`): between single quotes, with C escapes (`\n`, `\t`, three
  octal digits for the other bytes that do not print) and a backslash before a backslash or a
  single quote.
* **Shell quoting, always** (`quoteAlways`): a text the shell reads back as the name. It is
  between single quotes; a single quote is closed, escaped and reopened (`'\''`), and a run of
  bytes that do not print is written as `$'...'` with C escapes, the single quotes around it
  closed before and reopened after. A name with a single quote in which every byte is a letter,
  a digit, a blank, a single quote or a harmless sign is instead written between double quotes
  with C escapes.
* **Shell quoting when needed** (`quoteIfNeeded`): the name as it is, unless it holds a byte
  the shell would read otherwise (a blank, a quote, a sign the shell gives a meaning, a byte
  that does not print, a `#` or `~` in front, a lone brace), a colon, or is empty; then as
  with shell quoting, always.
-/

namespace Regress.Shell

/-- How a pass of quoting works: whether it quotes for the shell, whether it writes C escapes,
whether it leaves out the outer quotes until something needs them, its quote, and whether a
colon needs quoting. -/
structure QuoteMode where
  shell : Bool
  escapes : Bool := true
  elide : Bool := false
  quote : Char
  colon : Bool := false
  deriving Inhabited

/-- Locale quoting. -/
def QuoteMode.locale : QuoteMode := { shell := false, quote := '\'' }

/-- Shell quoting, always. -/
def QuoteMode.always : QuoteMode := { shell := true, quote := '\'' }

/-- Shell quoting when needed. -/
def QuoteMode.ifNeeded : QuoteMode := { shell := true, elide := true, quote := '\'', colon := true }

/-- C quoting, between double quotes. -/
def QuoteMode.cQuotes : QuoteMode := { shell := false, quote := '"' }

/-- The output of a pass so far: the text, whether a `$'...'` is open, and whether the byte at
hand is being escaped. -/
structure QuoteState where
  out : String := ""
  pending : Bool := false
  escaping : Bool := false
  deriving Inhabited

namespace QuoteState

/-- Starts an escape: opens `$'...'` when quoting for the shell and none is open, then writes
the backslash. Without outer quotes nothing can be escaped, so the pass gives up. -/
def startEscape (m : QuoteMode) (st : QuoteState) : Option QuoteState :=
  if m.elide then none
  else
    let st := { st with escaping := true }
    let st := if m.shell && !st.pending then { st with out := st.out ++ "\x27$\x27", pending := true } else st
    some { st with out := st.out.push '\\' }

/-- Writes a byte, first closing an open `$'...'` when the byte is not part of an escape. -/
def store (st : QuoteState) (c : Char) : QuoteState :=
  let st := if st.pending && !st.escaping then { st with out := st.out ++ "\x27\x27", pending := false } else st
  { st with out := st.out.push c }

end QuoteState

/-- Whether a byte prints in the C locale. -/
def printsInC (c : Char) : Bool :=
  0x20 ≤ c.toNat && c.toNat < 0x7F

/-- Whether a byte is harmless for the shell and in C quotes alike. -/
def harmlessByte (c : Char) : Bool :=
  c.isAlphanum || "%+,-./:]_".toList.contains c

/-- Whether a byte has a meaning for the shell wherever it stands. -/
def shellSpecial (c : Char) : Bool :=
  "!\"$&()*;<=>[^|".toList.contains c || c.toNat == 0x60

/-- The C escape letter of a control byte, if it has one. -/
def escapeLetter (c : Char) : Option Char :=
  match c with
  | '\x07' => some 'a'
  | '\x08' => some 'b'
  | '\x0c' => some 'f'
  | '\x0b' => some 'v'
  | '\n' => some 'n'
  | '\r' => some 'r'
  | '\t' => some 't'
  | _ => none

/-- One byte of a pass: the state after it, whether it is harmless for the shell and in C
quotes, and whether it is a single quote; `none` when the outer quotes are needed after all.
`i` is the byte's place and `cs` the whole text. -/
def quoteByte (m : QuoteMode) (cs : Array Char) (i : Nat) (st : QuoteState) :
    Option (QuoteState × Bool × Bool) := do
  let c := cs.getD i ' '
  let st := { st with escaping := false }
  let rightQuote := !m.shell && c == m.quote
  -- after the cases: the byte is written, escaped when it is the closing quote or a colon
  -- that needs quoting
  let finish (st : QuoteState) (c : Char) (compat : Bool) : Option (QuoteState × Bool × Bool) := do
    if rightQuote || (m.colon && c == ':') then
      let st ← st.startEscape m
      pure (st.store c, compat, false)
    else pure (st.store c, compat, false)
  -- a byte written as a C escape
  let escaped (st : QuoteState) (letter : Char) : Option (QuoteState × Bool × Bool) := do
    let st ← st.startEscape m
    pure (st.store letter, false, false)
  if c == '\x00' then
    if m.escapes then
      let st ← st.startEscape m
      let st := if !m.shell && (cs.getD (i + 1) ' ').isDigit then { st with out := st.out ++ "00" } else st
      finish st '0' false
    else finish st c false
  else if c == '?' then
    if m.shell && m.elide then none else finish st c false
  else if let some letter := escapeLetter c then
    if (c == '\n' || c == '\r' || c == '\t') && m.shell && m.elide then none
    else if m.escapes then escaped st letter
    else finish st c false
  else if c == '\\' then
    if m.shell then
      if m.elide then none else pure (st.store c, false, false)
    else if m.escapes && m.elide then pure (st.store c, false, false)
    else if m.escapes then escaped st '\\'
    else finish st c false
  else if c == '\'' then
    if m.shell then
      if m.elide then none
      else
        let (st, compat, _) ← finish { st with out := st.out ++ "\x27\\\x27", pending := false } c true
        pure (st, compat, true)
    else
      let (st, compat, _) ← finish st c true
      pure (st, compat, true)
  else if (c == '\x7b' || c == '\x7d') && cs.size != 1 then finish st c false
  else if (c == '#' || c == '~') && i != 0 then finish st c false
  else if c == ' ' || c == '\x7b' || c == '\x7d' || c == '#' || c == '~' then
    if m.shell && m.elide then none else finish st c true
  else if shellSpecial c then
    if m.shell && m.elide then none else finish st c false
  else if harmlessByte c then finish st c true
  else
    let prints := printsInC c
    if m.escapes && !prints then
      let st ← st.startEscape m
      let n := c.toNat
      let st := { st with out := st.out.push (Char.ofNat (48 + n / 64 % 4)) |>.push (Char.ofNat (48 + n / 8 % 8)) }
      pure (st.store (Char.ofNat (48 + n % 8)), false, false)
    else finish st c prints

/-- One pass of quoting over the bytes from `i` on: the text written, whether a single quote
was met, and whether every byte was harmless; `none` when the outer quotes are needed. -/
def quotePass (m : QuoteMode) (cs : Array Char) : Nat → Nat → QuoteState → Bool → Bool →
    Option (String × Bool × Bool)
  | 0, _, st, sawQuote, allHarmless => some (st.out, sawQuote, allHarmless)
  | fuel + 1, i, st, sawQuote, allHarmless =>
    if i ≥ cs.size then some (st.out, sawQuote, allHarmless)
    else do
      let (st, compat, quote) ← quoteByte m cs i st
      quotePass m cs fuel (i + 1) st (sawQuote || quote) (allHarmless && compat)

/-- A whole pass: the opening quote, the bytes, and the closing quote. A shell quoting with a
single quote in a name of harmless bytes is redone with C quotes. -/
def quoteRun (m : QuoteMode) (cs : Array Char) : Option String := do
  let opening := if m.elide then "" else String.singleton m.quote
  let (out, sawQuote, allHarmless) ← quotePass m cs (cs.size + 1) 0 { out := opening } false true
  if m.shell && m.elide && out.isEmpty then none
  if m.shell && !m.elide && sawQuote && allHarmless then
    match quotePass QuoteMode.cQuotes cs (cs.size + 1) 0 { out := "\"" } false true with
    | some (c, _, _) => return c ++ "\""
    | none => return out
  return if m.elide then out else out.push m.quote

/-- A name quoted in a mode; when the mode leaves out the outer quotes and they turn out to be
needed, the name is quoted for the shell, always. -/
def quoteIn (m : QuoteMode) (s : String) : String :=
  let cs := s.toList.toArray
  match quoteRun m cs with
  | some r => r
  | none => (quoteRun QuoteMode.always cs).getD s

/-- A name in locale quoting. -/
def quoteName (s : String) : String :=
  quoteIn QuoteMode.locale s

/-- A name in shell quoting, always. -/
def quoteAlways (s : String) : String :=
  quoteIn QuoteMode.always s

/-- A name in shell quoting when needed. -/
def quoteIfNeeded (s : String) : String :=
  quoteIn QuoteMode.ifNeeded s

end Regress.Shell
