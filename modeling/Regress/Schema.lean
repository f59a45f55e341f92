import Regress.Json
import Regress.Text.Regex
import Regress.Text.Escape

/-!
# Checking plain values against a schema

A `Schema` is the part of JSON Schema that the configuration file needs. It can ask for:

* a type;
* a least length for strings, in characters, and a pattern they must match somewhere;
* a least length for arrays, and a schema for every item;
* for objects, a schema per known property, and whether other properties are refused.

Documents are checked as JSON: every number is a `number`.

`check` walks the document and the schema together. It lists every violation with the JSON
pointer of the place it was found. A value of the wrong type gets only that one violation,
and a value that is missing is not checked. Properties an object may not have are named in
the order of their quoted names, and the report sorts its lines, so neither depends on the
order of an object.
-/

namespace Regress

/-- A JSON schema: each field is one keyword, absent when `none` or empty. -/
structure Schema where
  type : Option String := none
  minLength : Option Nat := none
  pattern : Option String := none
  minItems : Option Nat := none
  items : Option Schema := none
  properties : List (String × Schema) := []
  closed : Bool := false
  deriving Inhabited

/-- A violation of a schema: the JSON pointer of the place and what is wrong there. -/
structure Violation where
  location : String
  message : String
  deriving Repr, DecidableEq

namespace Schema

/-- A key as a step of a JSON pointer: `~` and `/` are escaped. -/
def pointerStep (k : String) : String :=
  String.join (k.toList.map fun c => if c == '~' then "~0" else if c == '/' then "~1" else String.singleton c)

/-- Whether a string matches a pattern; a pattern that cannot be read matches nothing. -/
def patternMatches (pattern s : String) : Bool :=
  match Regex.parse pattern with
  | some r => r.found s
  | none => false

/-- The violations of the string keywords. -/
def checkString (s : Schema) (loc text : String) : List Violation :=
  let len := text.length
  let short := match s.minLength with
    | some n => if len < n then [⟨loc, "minLength: got " ++ toString len ++ ", want " ++ toString n⟩] else []
    | none => []
  let unmatched := match s.pattern with
    | some p =>
      if patternMatches p text then []
      else [⟨loc, Escape.singleQuoted text ++ " does not match pattern " ++ Escape.singleQuoted p⟩]
    | none => []
  short ++ unmatched

/-- The violation of the type keyword, if the value has another type. -/
def mismatch (s : Schema) (loc : String) (v : Json) : Option Violation :=
  match s.type with
  | some t => if v.typeName != t then some ⟨loc, "got " ++ v.typeName ++ ", want " ++ t⟩ else none
  | none => none

mutual

/-- Every violation of `s` by a value at `loc`. -/
def check (s : Schema) (loc : String) : Json → List Violation
  | .string text =>
    match mismatch s loc (.string text) with
    | some m => [m]
    | none => checkString s loc text
  | .array items =>
    match mismatch s loc (.array items) with
    | some m => [m]
    | none =>
      let short := match s.minItems with
        | some n =>
          if items.length < n then
            [⟨loc, "minItems: got " ++ toString items.length ++ ", want " ++ toString n⟩]
          else []
        | none => []
      short ++ checkItems s.items loc 0 items
  | .object entries =>
    match mismatch s loc (.object entries) with
    | some m => [m]
    | none =>
      let extra := (entries.map (·.1)).filter fun k => !(s.properties.any (·.1 == k))
      let extraLine :=
        if s.closed && !extra.isEmpty then
          let names := (extra.map Escape.singleQuoted).mergeSort fun a b => decide (a ≤ b)
          [⟨loc, "additional properties " ++ ", ".intercalate names ++ " not allowed"⟩]
        else []
      extraLine ++ checkEntries s loc entries
  | v => (mismatch s loc v).toList

/-- The violations of the items of an array, numbered from `i`. -/
def checkItems (s : Option Schema) (loc : String) (i : Nat) : List Json → List Violation
  | [] => []
  | v :: vs =>
    (match s with
     | some s => check s (loc ++ "/" ++ toString i) v
     | none => []) ++ checkItems s loc (i + 1) vs

/-- The violations of the entries of an object whose keys the schema knows. -/
def checkEntries (s : Schema) (loc : String) : List (String × Json) → List Violation
  | [] => []
  | (k, v) :: es =>
    (match s.properties.find? (·.1 == k) with
     | some (_, p) => check p (loc ++ "/" ++ pointerStep k) v
     | none => []) ++ checkEntries s loc es

end

/-- The report of a failed check against the schema at `url`: a headline and one sorted line
per violation. -/
def report (url : String) (vs : List Violation) : String :=
  let lines := vs.map fun v => "- at " ++ Escape.singleQuoted v.location ++ ": " ++ v.message
  let sorted := lines.mergeSort fun a b => decide (a ≤ b)
  "\n".intercalate (("jsonschema validation failed with " ++ Escape.singleQuoted url) :: sorted)

/-- Checks a value against the schema at `url`: nothing, or the report. -/
def validate (s : Schema) (url : String) (v : Json) : Except String Unit :=
  match check s "" v with
  | [] => .ok ()
  | vs => .error (report url vs)

end Schema

end Regress
