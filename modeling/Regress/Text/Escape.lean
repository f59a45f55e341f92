import Regress.Text.Printable
import Regress.Text.Utf8

/-!
# Quoted texts

Messages show a text between quotes with backslash escapes, so that blanks, control characters
and quotes stay visible. A character that prints is kept as it is. Otherwise the message uses,
in order of preference:

* the short escapes `\a \b \f \n \r \t \v`;
* `\xNN` for the other characters below a space, for delete, and for an octet that starts no
  well-formed character;
* `\uNNNN` or `\UNNNNNNNN` for the rest.

The quote and the backslash always get a backslash.

`printable` is `Text.isPrint`: the Unicode letters, marks, numbers, punctuation and symbols,
and the ASCII space.
-/

namespace Regress.Escape

/-- Whether a character prints as itself. -/
def printable (c : Char) : Bool :=
  Text.isPrint c

/-- The lowercase hexadecimal digits of `v`, padded with zeros to `width`. -/
def hex (width v : Nat) : String :=
  let ds := Nat.toDigits 16 v
  String.ofList (List.replicate (width - ds.length) '0' ++ ds)

/-- One character as it stands between `quote`s. -/
def escapeChar (quote c : Char) : String :=
  if c == quote || c == '\\' then String.ofList ['\\', c]
  else if let some b := Utf8.rawOctet? c then "\\x" ++ hex 2 b.toNat
  else if printable c then String.singleton c
  else
    match c with
    | '\x07' => "\\a"
    | '\x08' => "\\b"
    | '\x0c' => "\\f"
    | '\n' => "\\n"
    | '\r' => "\\r"
    | '\t' => "\\t"
    | '\x0b' => "\\v"
    | _ =>
      let v := c.toNat
      if v < 0x20 || v == 0x7F then "\\x" ++ hex 2 v
      else if v < 0x10000 then "\\u" ++ hex 4 v
      else "\\U" ++ hex 8 v

/-- A text between double quotes, escaped. -/
def quoted (s : String) : String :=
  "\"" ++ String.join (s.toList.map (escapeChar '"')) ++ "\""

/-- A text between single quotes, escaped as between double quotes except that a double quote
stays as it is and a single quote gets a backslash. -/
def singleQuoted (s : String) : String :=
  "'" ++ String.join (s.toList.map fun c =>
    if c == '"' then "\"" else if c == '\'' then "\\'" else escapeChar '"' c) ++ "'"

end Regress.Escape
