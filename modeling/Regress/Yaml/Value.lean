import Regress.Yaml.Node
import Regress.Text.Utf8
import Regress.Text.Escape
import Regress.Text.Base64

/-!
# Plain values of a YAML document

A document decodes to a `Value`: a scalar, a list, or a map.

* **Scalars.** A scalar decodes to what it resolves to: null, a boolean, a signed or unsigned
  integer, a float, a string or a timestamp. `!!binary` text decodes to the string of its
  octets.
* **Aliases.** An alias decodes to its target.
* **Maps.** The keys are checked before anything else: two keys of the same kind with the same
  text are each reported, and the mapping is then not decoded. A mapping whose keys are all
  strings (or the merge key) is a map of strings, whose keys are their texts. Any other mapping
  is a map with scalar keys: each key decodes like a value, a null key included, and a key that
  decodes to a list or a map fails with `invalid map key`. A later key equal to an earlier one
  replaces its value.
* **Merges.** A `<<` key merges in a mapping, or a list of mappings, after the mapping's own
  entries. A key the mapping already has, or one merged in earlier, wins. Merged keys decode as
  keys of the map they are merged into, so in a map of strings a null key is dropped.

`Value.literal` writes a value as messages show one: the composite literal of its type, with the
keys of a map sorted.

Reported problems are collected, and the document fails with all of them at the end. Other
problems stop decoding at once.
-/

namespace Regress.Yaml

/-- A plain value. A map of strings has only `Scalar.str` keys. -/
inductive Value where
  | scalar (s : Scalar)
  | seq (items : List Value)
  | map (stringKeys : Bool) (entries : List (Scalar × Value))
  deriving Repr, Inhabited

/-- How messages write a float: positionally from `1e-4` up to below `1e6`, else with an
exponent of at least two digits. -/
def messageFloat : FloatStyle := ⟨-4, 6, 2⟩

/-- A float as messages show it. -/
def FloatValue.literal : FloatValue → String
  | .finite b => b.shortest.render messageFloat
  | .nan => "NaN"
  | .posInf => "+Inf"
  | .negInf => "-Inf"

namespace Scalar

/-- A scalar as messages show it. An unsigned integer is written in hexadecimal. -/
def literal : Scalar → String
  | .null => "interface \x7b\x7d(nil)"
  | .bool b => if b then "true" else "false"
  | .int i => toString i
  | .uint n => "0x" ++ String.ofList (Nat.toDigits 16 n)
  | .float f => f.literal
  | .str s => Escape.quoted s
  | .time t => t.literal

/-- Whether two scalars are the same key of a map: floats are compared by value, so the two
zeros are one key and a NaN equals nothing. -/
def sameKey : Scalar → Scalar → Bool
  | .float (.finite a), .float (.finite b) => a.compareValue b == .eq
  | .float .nan, _ => false
  | a, b => a == b

/-- The place of a scalar's kind among the keys of a map in messages. -/
def kindRank : Scalar → Nat
  | .null => 0
  | .bool _ => 1
  | .float _ => 2
  | .int _ => 3
  | .str _ => 4
  | .time _ => 5
  | .uint _ => 6

/-- The place of a float among floats: NaN first, then by value. -/
def floatRank : FloatValue → Int × Binary64
  | .nan => (0, default)
  | .negInf => (1, default)
  | .finite b => (2, b)
  | .posInf => (3, default)

/-- Whether the key `a` comes after the key `b` in messages. Keys of one kind are ordered by
value (a timestamp by its nanoseconds, then its fields); keys of different kinds by kind. -/
def keyAfter (a b : Scalar) : Bool :=
  match a, b with
  | .bool x, .bool y => x && !y
  | .int x, .int y => x > y
  | .uint x, .uint y => x > y
  | .str x, .str y => y < x
  | .float x, .float y =>
    let (rx, bx) := floatRank x
    let (ry, byy) := floatRank y
    rx > ry || (rx == ry && rx == 2 && bx.compareValue byy == .gt)
  | .time x, .time y =>
    let kx := [x.nanos, x.year, x.month, x.day, x.hour, x.minute, x.second]
    let ky := [y.nanos, y.year, y.month, y.day, y.hour, y.minute, y.second]
    ky < kx
  | _, _ => a.kindRank > b.kindRank

end Scalar

namespace Value

/-- Whether a value is a list or a map. -/
def isCollection : Value → Bool
  | .seq _ | .map _ _ => true
  | _ => false

mutual

/-- A value as messages show it: the composite literal of its type, with the keys of a map in
order. -/
def literal : Value → String
  | .scalar s => s.literal
  | .seq items => "[]interface \x7b\x7d\x7b" ++ ", ".intercalate (literalItems items) ++ "\x7d"
  | .map stringKeys entries =>
    let sorted := (literalEntries entries).mergeSort fun a b => !Scalar.keyAfter a.1 b.1
    (if stringKeys then "map[string]interface \x7b\x7d\x7b"
     else "map[interface \x7b\x7d]interface \x7b\x7d\x7b") ++
      ", ".intercalate (sorted.map (·.2)) ++ "\x7d"

/-- The literals of the items of a list. -/
def literalItems : List Value → List String
  | [] => []
  | v :: vs => literal v :: literalItems vs

/-- Each key of a map with the literal of its entry. -/
def literalEntries : List (Scalar × Value) → List (Scalar × String)
  | [] => []
  | (k, v) :: es => (k, k.literal ++ ":" ++ literal v) :: literalEntries es

end

/-- Sets a key of a map, keeping its place if it is there. -/
def setKey (entries : List (Scalar × Value)) (k : Scalar) (v : Value) : List (Scalar × Value) :=
  if entries.any (·.1.sameKey k) then entries.map fun e => if e.1.sameKey k then (k, v) else e
  else entries ++ [(k, v)]

end Value

/-- Why decoding stopped: a problem of the document, or a crash of the decoder itself, which
no caller handles. -/
inductive DecodeError where
  | failed (message : String)
  | crashed (message : String)
  deriving Repr, Inhabited

/-- What decoding keeps track of: the problems reported so far, how many nodes it has decoded,
how many of those it reached through an alias, and how many aliases it is inside. -/
structure DecodeState where
  reports : Array String := #[]
  decodes : Nat := 0
  aliased : Nat := 0
  aliasDepth : Nat := 0
  deriving Inhabited

/-- The steps of decoding: reported problems pile up; any other problem stops at once. -/
abbrev DecodeM := StateT DecodeState (Except DecodeError)

/-- Stops decoding with a problem. -/
def fail {α : Type} (msg : String) : DecodeM α :=
  throw (.failed msg)

/-- Reports a problem and goes on. -/
def report (msg : String) : DecodeM Unit :=
  modify fun st => { st with reports := st.reports.push msg }

/-- The largest share of decoded nodes that may come through aliases: 99% up to 400000
nodes, 10% from 4000000, and in between a share that falls in a straight line. -/
def allowedAliasShare (decodes : Nat) : Float :=
  if decodes ≤ 400000 then 0.99
  else if decodes ≥ 4000000 then 0.10
  else 0.99 - 0.89 * (Float.ofNat (decodes - 400000) / 3600000.0)

/-- Counts one more decoded node, reached through an alias when inside one. A document whose
nodes come through aliases too often (more than 100 of them, among more than 1000 nodes, and a
larger share than `allowedAliasShare`) is refused, which bounds the work an alias bomb can
cause. -/
def tick : DecodeM Unit := do
  let st ← get
  let decodes := st.decodes + 1
  let aliased := if st.aliasDepth > 0 then st.aliased + 1 else st.aliased
  set { st with decodes, aliased }
  if aliased > 100 && decodes > 1000 &&
      Float.ofNat aliased / Float.ofNat decodes > allowedAliasShare decodes then
    fail "document contains excessive aliasing"

/-- Decodes inside an alias. -/
def throughAlias {α : Type} (m : DecodeM α) : DecodeM α := do
  modify fun st => { st with aliasDepth := st.aliasDepth + 1 }
  let r ← m
  modify fun st => { st with aliasDepth := st.aliasDepth - 1 }
  pure r

/-- The reports for keys that repeat: each later key with the same kind and text as an earlier
one names its line and the earlier one's. -/
def duplicateKeys (keys : List Node) : List String :=
  let indexed := keys.zipIdx
  indexed.flatMap fun (ki, i) =>
    (indexed.filter fun (kj, j) => j > i && ki.kind == kj.kind && ki.text == kj.text).map
      fun (kj, _) => "line " ++ toString kj.line ++ ": mapping key " ++ Escape.quoted kj.text ++
        " already defined at line " ++ toString ki.line

/-- The node an alias stands for, or the node itself; `none` for an alias inside its own
target. -/
def Node.target : Node → Option Node
  | .alias _ t _ => t
  | n => some n

/-- The problem of an alias used inside the node it names. -/
def selfReference (name : String) : String :=
  "anchor \x27" ++ name ++ "\x27 value contains itself"

/-- The problem of a merge whose value is not a mapping or a list of mappings. -/
def badMerge : String :=
  "map merge requires map or sequence of maps as the value"

/-- The octets of `!!binary` text as a string. -/
def binaryText (text : String) : DecodeM String :=
  match Base64.decode text with
  | none => fail "!!binary value contains invalid base64 data"
  | some octets => pure (Utf8.decode octets)

/-- A scalar's value. -/
def scalarValue (tag text : String) : DecodeM Scalar := do
  if tag == "!!str" then return .str text
  match resolve tag text with
  | .error m => fail m
  | .ok (rtag, v) =>
    if rtag == "!!binary" then return .str (← binaryText text)
    return v

/-- Whether a mapping's keys are all strings or the merge key, so that it is a map of strings. -/
def isStringMap (entries : List (Node × Node)) : Bool :=
  entries.all fun (k, _) => k.effectiveTag == "!!str" || k.effectiveTag == "!!merge"

/-- The report for a collection that cannot be a string: its tag, and for a tag other than
`!!seq` and `!!map` the collection's empty text. -/
def notAString (n : Node) : String :=
  let tag := n.tag
  "line " ++ toString n.line ++ ": cannot unmarshal " ++ tag ++
    (if tag == "!!seq" || tag == "!!map" then "" else " \x60\x60") ++ " into string"

/-- The string a key decodes to in a map of strings: a scalar's text, or the octets of
`!!binary` text; an alias gives its target's. A null key, or one that resolves to nothing a
string can hold, gives none. A list or a map gives none and is reported, a map after the
reports of its repeated keys, if it has any. -/
def stringKey : Nat → Node → DecodeM (Option String)
  | 0, _ => fail "document is too deep"
  | fuel + 1, k => do
    tick
    match k with
    | .scalar _ text _ _ =>
      if k.tag == "!!str" then pure (some text)
      else
        match resolve k.tag text with
        | .error m => fail m
        | .ok ("!!binary", _) => do return some (← binaryText text)
        | .ok (_, .null) => pure none
        | .ok _ => pure (some text)
    | .alias name none _ => fail (selfReference name)
    | .alias _ (some t) _ => throughAlias (stringKey fuel t)
    | .sequence _ _ _ =>
      report (notAString k)
      pure none
    | .mapping _ entries _ =>
      let dups := duplicateKeys (entries.map (·.1))
      if dups.isEmpty then report (notAString k) else for d in dups do report d
      pure none

/-- The type a decoded key has, as a crash names it. -/
def Value.typeName : Value → String
  | .seq _ => "[]interface \x7b\x7d"
  | .map true _ => "map[string]interface \x7b\x7d"
  | .map false _ => "map[interface \x7b\x7d]interface \x7b\x7d"
  | .scalar _ => "interface \x7b\x7d"

mutual

/-- Decodes a node; `fuel` bounds the depth. -/
def decode : Nat → Node → DecodeM Value
  | 0, _ => fail "document is too deep"
  | fuel + 1, n => do
    tick
    match n with
    | .scalar _ text _ _ => do return .scalar (← scalarValue n.tag text)
    | .alias name none _ => fail (selfReference name)
    | .alias _ (some t) _ => throughAlias (decode fuel t)
    | .sequence _ items _ => do
      let mut out : Array Value := #[]
      for item in items do
        out := out.push (← decode fuel item)
      return .seq out.toList
    | .mapping _ entries _ => do
      let stringKeys := isStringMap entries
      let (m, _) ← decodeMapping fuel stringKeys entries [] none
      return .map stringKeys m

/-- Decodes a key as a key of a map of strings or of a map with scalar keys; `none` drops it.
A key of the second kind that decodes to a list or a map is refused; while a merge is going on
(`merging`) the decoder looks it up among the keys taken first, and crashes, as a list or a map
cannot be looked up. -/
def decodeKey : Nat → Bool → Bool → Node → DecodeM (Option Scalar)
  | 0, _, _, _ => fail "document is too deep"
  | fuel + 1, stringKeys, merging, k => do
    if stringKeys then
      return (← stringKey fuel k).map Scalar.str
    match ← decode fuel k with
    | .scalar s => return some s
    | v =>
      if merging then throw (.crashed ("runtime error: hash of unhashable type " ++ v.typeName))
      else fail ("invalid map key: " ++ v.literal)

/-- Decodes the entries of a mapping onto `acc`. `merged` holds the keys already taken while a
merge is going on: those are skipped, and new ones are added to it. -/
def decodeMapping : Nat → Bool → List (Node × Node) → List (Scalar × Value) →
    Option (List Scalar) → DecodeM (List (Scalar × Value) × Option (List Scalar))
  | 0, _, _, _, _ => fail "document is too deep"
  | fuel + 1, stringKeys, entries, acc, merged => do
    let dups := duplicateKeys (entries.map (·.1))
    if !dups.isEmpty then
      for d in dups do report d
      return (acc, merged)
    let mut acc := acc
    let mut merged := merged
    let mut mergeValue : Option Node := none
    for (k, v) in entries do
      if k.isMerge then
        mergeValue := some v
        continue
      match ← decodeKey fuel stringKeys merged.isSome k with
      | none => pure ()
      | some key =>
        if let some ks := merged then
          if ks.any (·.sameKey key) then continue
          merged := some (key :: ks)
        let value ← decode fuel v
        acc := Value.setKey acc key value
    match mergeValue, merged with
    | none, _ => return (acc, merged)
    | some m, some ks =>
      let (done, ks) ← mergeInto fuel stringKeys m acc ks
      return (done, some ks)
    | some m, none =>
      let mut taken : List Scalar := []
      for (k, _) in entries do
        match ← decode fuel k with
        | .scalar s => taken := s :: taken
        | _ => pure ()
      let (done, _) ← mergeInto fuel stringKeys m acc taken
      return (done, none)

/-- Merges the mapping or mappings `m` stands for into `acc`, skipping the keys in `taken`. Each
mapping merged, and each alias to one, counts as a decoded node. -/
def mergeInto : Nat → Bool → Node → List (Scalar × Value) → List Scalar →
    DecodeM (List (Scalar × Value) × List Scalar)
  | 0, _, _, _, _ => fail "document is too deep"
  | fuel + 1, stringKeys, m, acc, taken => do
    let mergeOne (item : Node) (acc : List (Scalar × Value)) (taken : List Scalar) :
        DecodeM (List (Scalar × Value) × List Scalar) := do
      match item with
      | .mapping _ entries _ =>
        tick
        let (acc, ks) ← decodeMapping fuel stringKeys entries acc (some taken)
        return (acc, ks.getD taken)
      | .alias name t _ =>
        match t with
        | none =>
          tick
          fail (selfReference name)
        | some (.mapping _ entries _) =>
          tick
          throughAlias do
            tick
            let (acc, ks) ← decodeMapping fuel stringKeys entries acc (some taken)
            return (acc, ks.getD taken)
        | some _ => fail badMerge
      | _ => fail badMerge
    match m with
    | .sequence _ items _ =>
      let mut acc := acc
      let mut taken := taken
      for item in items do
        let (a, t) ← mergeOne item acc taken
        acc := a
        taken := t
      return (acc, taken)
    | _ => mergeOne m acc taken

end

/-- The text a scalar gives a string field: its text, or the octets of `!!binary` text; an
alias gives its target's. A null or a collection gives none. -/
def Node.stringField : Nat → Node → Option String
  | 0, _ => none
  | fuel + 1, n =>
    match n with
    | .alias _ (some t) _ => Node.stringField fuel t
    | .scalar _ text _ _ =>
      if n.tag == "!!str" then some text
      else
        match resolve n.tag text with
        | .ok ("!!binary", _) => (Base64.decode text).map Utf8.decode
        | .ok (_, .null) => none
        | .ok _ => some text
        | .error _ => none
    | _ => none

/-- The boolean a scalar gives a boolean field. -/
def Node.boolField : Nat → Node → Option Bool
  | 0, _ => none
  | fuel + 1, n =>
    match n with
    | .alias _ (some t) _ => Node.boolField fuel t
    | .scalar _ text _ _ =>
      match resolve n.tag text with
      | .ok (_, .bool b) => some b
      | _ => none
    | _ => none

/-- The strings a sequence gives a list field, one per item that gives one. -/
def Node.stringsField : Nat → Node → List String
  | 0, _ => []
  | fuel + 1, n =>
    match n with
    | .alias _ (some t) _ => Node.stringsField fuel t
    | .sequence _ items _ => items.filterMap (Node.stringField fuel)
    | _ => []

/-- The fields of a mapping as a record sees them, by key: the mapping's own entries, then
those merged in through `<<` under keys not yet taken. -/
def Node.fields : Nat → Node → List (String × Node)
  | 0, _ => []
  | fuel + 1, n =>
    match n with
    | .alias _ (some t) _ => Node.fields fuel t
    | .mapping _ entries _ =>
      let own := entries.filterMap fun (k, v) =>
        if k.isMerge then none else (Node.stringField fuel k).map (·, v)
      let sources : List Node := entries.flatMap fun (k, v) =>
        if !k.isMerge then []
        else
          match v with
          | .sequence _ items _ => items
          | v => [v]
      sources.foldl (fun acc src =>
        acc ++ (Node.fields fuel src).filter fun (key, _) => !(acc.any (·.1 == key))) own
    | _ => []

/-- How deep decoding may go for a tree read from `text`. -/
def decodeFuel (text : String) : Nat :=
  4 * text.length + 8

/-- Decodes the first document of a YAML text; a text with no document is null. Failures carry
the `yaml: ` prefix. The document itself counts as a decoded node. -/
def load (text : String) : Except DecodeError (Option Node × Value) :=
  match readDocument text with
  | .error p => .error (.failed p.message)
  | .ok none => .ok (none, .scalar .null)
  | .ok (some n) =>
    match (do tick; decode (decodeFuel text) n).run {} with
    | .error (.failed m) => .error (.failed ("yaml: " ++ m))
    | .error (.crashed m) => .error (.crashed m)
    | .ok (v, st) =>
      if st.reports.isEmpty then .ok (some n, v)
      else .error (.failed ("yaml: unmarshal errors:\n  " ++ "\n  ".intercalate st.reports.toList))

end Regress.Yaml
