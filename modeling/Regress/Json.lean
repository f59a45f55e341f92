/-!
# JSON values

A `Json` is a JSON document: null, a boolean, a number kept as its text, a string, an array or
an object with its members in order. `Json.render` writes it compactly: no blanks, strings in
double quotes with the escapes below.

* A quote and a backslash get a backslash; backspace, form feed, line feed, carriage return
  and tab get their short escapes, and the other control characters `\u00XX`.
* `<`, `>` and `&`, and the line and paragraph separators, are written `\uXXXX`, so that the
  text can stand inside HTML and scripts.
* Every other character is written as it is.
-/

namespace Regress

/-- A JSON document. -/
inductive Json where
  | null
  | bool (b : Bool)
  | number (text : String)
  | string (s : String)
  | array (items : List Json)
  | object (members : List (String × Json))
  deriving Repr, Inhabited

namespace Json

/-- Four lowercase hexadecimal digits. -/
def hex4 (n : Nat) : String :=
  let ds := Nat.toDigits 16 n
  String.ofList (List.replicate (4 - ds.length) '0' ++ ds)

/-- A character as it stands inside a JSON string. -/
def escapeChar (c : Char) : String :=
  match c with
  | '"' => "\\\""
  | '\\' => "\\\\"
  | '\x08' => "\\b"
  | '\x0c' => "\\f"
  | '\n' => "\\n"
  | '\r' => "\\r"
  | '\t' => "\\t"
  | '<' | '>' | '&' | '\u2028' | '\u2029' => "\\u" ++ hex4 c.toNat
  | _ => if c.toNat < 0x20 then "\\u" ++ hex4 c.toNat else String.singleton c

/-- A string in double quotes, escaped. -/
def quote (s : String) : String :=
  "\"" ++ String.join (s.toList.map escapeChar) ++ "\""

/-- The name of a JSON type, as schema messages give it. -/
def typeName : Json → String
  | .null => "null"
  | .bool _ => "boolean"
  | .number _ => "number"
  | .string _ => "string"
  | .array _ => "array"
  | .object _ => "object"

mutual

/-- The compact text of a document. -/
def render : Json → String
  | .null => "null"
  | .bool b => if b then "true" else "false"
  | .number t => t
  | .string s => quote s
  | .array items => "[" ++ ",".intercalate (renderItems items) ++ "]"
  | .object members => "\x7b" ++ ",".intercalate (renderMembers members) ++ "\x7d"

/-- The texts of the items of an array. -/
def renderItems : List Json → List String
  | [] => []
  | j :: js => render j :: renderItems js

/-- The texts of the members of an object. -/
def renderMembers : List (String × Json) → List String
  | [] => []
  | (k, j) :: ms => (quote k ++ ":" ++ render j) :: renderMembers ms

end

end Json

end Regress
