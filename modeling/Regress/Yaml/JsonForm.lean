import Regress.Yaml.Value
import Regress.Json

/-!
# The JSON form of a value

A configuration is checked as JSON, so a decoded YAML value is first written as JSON.

* Null, booleans and strings are themselves; an octet of a string that starts no well-formed
  character is the replacement character. An integer is its decimal digits. A float is its
  shortest digits, positionally from `1e-6` up to below `1e21` and with an exponent otherwise;
  a NaN or an infinity has no JSON form. A timestamp is its RFC 3339 text, and one whose offset
  is 24 hours or more has none.
* A list is an array.
* A map is an object whose members are sorted by the octets of their names. A key that is a string, an integer or a
  timestamp names its member by its JSON text; a null, boolean or float key can name none.

Keys are named before any member is written, so a key that names none is found before any
problem inside the values. Its message gives the JSON pointer of the map, when it is not the
whole document, and the number of bytes written before the map's opening brace, plus two.
-/

namespace Regress.Yaml

/-- How JSON writes a float: positionally from `1e-6` up to below `1e21`, else with an exponent
of at least one digit. -/
def jsonFloat : FloatStyle := ⟨-6, 21, 1⟩

/-- The prefix of the messages about values with no JSON form. -/
def unsupported : String := "json: unsupported value: "

/-- A key as a step of a JSON pointer: `~` and `/` are escaped. -/
def pointerStep (k : String) : String :=
  String.join (k.toList.map fun c =>
    if c == '~' then "~0" else if c == '/' then "~1" else String.singleton c)

/-- The JSON text of a timestamp, or the message for one that has none. -/
def timeText (t : Timestamp) : Except String String :=
  match t.rfc3339 with
  | .ok s => .ok s
  | .error e => .error ("json: error calling MarshalJSON for type *time.Time: " ++ e)

/-- The JSON form of a scalar. -/
def Scalar.toJson : Scalar → Except String Json
  | .null => .ok .null
  | .bool b => .ok (.bool b)
  | .int i => .ok (.number (toString i))
  | .uint n => .ok (.number (toString n))
  | .float (.finite b) => .ok (.number (b.shortest.render jsonFloat))
  | .float .nan => .error (unsupported ++ "NaN")
  | .float .posInf => .error (unsupported ++ "+Inf")
  | .float .negInf => .error (unsupported ++ "-Inf")
  | .str s => .ok (.string (Utf8.valid s))
  | .time t => (timeText t).map Json.string

/-- The name of the member a key stands for, in a map at `pointer` whose opening brace comes
after `offset` bytes. -/
def Scalar.memberName (pointer : String) (offset : Nat) : Scalar → Except String String
  | .str s => .ok s
  | .int i => .ok (toString i)
  | .uint n => .ok (toString n)
  | .time t => timeText t
  | _ =>
    .error (unsupported ++ "jsontext: object member name must be a string" ++
      (if pointer.isEmpty then "" else " within " ++ Escape.quoted pointer) ++
      " after offset " ++ toString (offset + 2))

/-- The members of an object as a JSON reader keeps them: of two with one name, the later. -/
def lastOfEach (members : List (String × Json)) : List (String × Json) :=
  members.foldl (fun acc (k, j) =>
    if acc.any (·.1 == k) then acc.map fun (k', j') => if k' == k then (k, j) else (k', j')
    else acc ++ [(k, j)]) []

/-- Puts a member before the first one whose name's octets do not come before its own. -/
def insertMember (m : String × Value) : List (String × Value) → List (String × Value)
  | [] => [m]
  | m' :: ms => if Utf8.octetsLE m.1 m'.1 then m :: m' :: ms else m' :: insertMember m ms

/-- The members in the order of the octets of their names, members of one name in the order
they come in. -/
def sortMembers (ms : List (String × Value)) : List (String × Value) :=
  ms.foldr insertMember []

mutual

/-- The JSON form of a value at `pointer`, written after `offset` bytes: the document and the
bytes it takes. -/
def Value.toJsonAt : Nat → String → Nat → Value → Except String (Json × Nat)
  | 0, _, _, _ => .error "document is too deep"
  | fuel + 1, pointer, offset, v =>
    match v with
    | .scalar s => do
      let j ← s.toJson
      pure (j, j.render.utf8ByteSize)
    | .seq items => do
      let (js, n) ← itemsToJson fuel pointer (offset + 1) 0 items
      pure (.array js, n + 2)
    | .map _ entries => do
      let named ← entries.mapM fun (k, v) => do
        pure (← k.memberName pointer offset, v)
      let sorted := (sortMembers named).map fun (k, v) => (Utf8.valid k, v)
      let (ms, n) ← membersToJson fuel pointer (offset + 1) true sorted
      pure (.object (lastOfEach ms), n + 2)

/-- The items of an array from index `i`, the first written after `offset` bytes: their JSON
forms and the bytes they take with the commas between them. -/
def itemsToJson : Nat → String → Nat → Nat → List Value → Except String (List Json × Nat)
  | 0, _, _, _, _ => .error "document is too deep"
  | _ + 1, _, _, _, [] => .ok ([], 0)
  | fuel + 1, pointer, offset, i, v :: vs => do
    let comma := if i == 0 then 0 else 1
    let (j, n) ← v.toJsonAt fuel (pointer ++ "/" ++ toString i) (offset + comma)
    let (js, m) ← itemsToJson fuel pointer (offset + comma + n) (i + 1) vs
    pure (j :: js, comma + n + m)

/-- The members of an object, the first written after `offset` bytes: their JSON forms and the
bytes they take with the commas between them. -/
def membersToJson : Nat → String → Nat → Bool → List (String × Value) →
    Except String (List (String × Json) × Nat)
  | 0, _, _, _, _ => .error "document is too deep"
  | _ + 1, _, _, _, [] => .ok ([], 0)
  | fuel + 1, pointer, offset, first, (k, v) :: rest => do
    let comma := if first then 0 else 1
    let name := (Json.quote k).utf8ByteSize + 1
    let (j, n) ← v.toJsonAt fuel (pointer ++ "/" ++ pointerStep k) (offset + comma + name)
    let (ms, m) ← membersToJson fuel pointer (offset + comma + name + n) false rest
    pure ((k, j) :: ms, comma + name + n + m)

end

/-- The JSON form of a whole document, or why it has none. -/
def Value.toJson (v : Value) (fuel : Nat) : Except String Json :=
  (Value.toJsonAt fuel "" 0 v).map (·.1)

end Regress.Yaml
