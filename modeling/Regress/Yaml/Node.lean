import Regress.Yaml.Event
import Regress.Yaml.Resolve

/-!
# The document tree

The events of the first document are built into a tree of nodes. Later documents are never
read, but the parser may look a few tokens past the first one to see where it ends, so a
problem just after it can still stop reading.

An anchor names the node it stands before from the moment the node begins. An alias is bound
to the node its name stands for when the alias is read. An alias inside the node it names has
no finished node to stand for. It keeps no target, and using it is a problem. A name that was
never defined is a problem when the alias is read.

Each node keeps its line, counted from one, for messages about duplicate keys.
-/

namespace Regress.Yaml

/-- A node of a YAML document. A tag is as written after its handle is expanded; an empty tag
means none was written. -/
inductive Node where
  | scalar (tag : String) (text : String) (style : ScalarStyle) (line : Nat)
  | sequence (tag : String) (items : List Node) (line : Nat)
  | mapping (tag : String) (entries : List (Node × Node)) (line : Nat)
  | alias (name : String) (target : Option Node) (line : Nat)
  deriving Repr, Inhabited

namespace Node

/-- The line a node starts on, from one. -/
def line : Node → Nat
  | .scalar _ _ _ l | .sequence _ _ l | .mapping _ _ l | .alias _ _ l => l

/-- The text a node is compared by when keys are checked for duplicates: a scalar's text, an
alias's name, and nothing for a collection. -/
def text : Node → String
  | .scalar _ t _ _ => t
  | .alias n _ _ => n
  | _ => ""

/-- Which of the four kinds a node is. -/
def kind : Node → Nat
  | .scalar .. => 0
  | .sequence .. => 1
  | .mapping .. => 2
  | .alias .. => 3

/-- The tag a node carries: the written tag in short form, or else `!!str` for a quoted or
block scalar, `!!merge` for a plain `<<`, the resolved tag of any other plain scalar, and
`!!seq` or `!!map` for a collection. An alias has none of its own. -/
def tag : Node → String
  | .scalar t text style _ =>
    if t != "" && t != "!" then shortTag t
    else if style != .plain then "!!str"
    else if text == "<<" then "!!merge"
    else (resolveText "" text).1
  | .sequence t _ _ => if t != "" && t != "!" then shortTag t else "!!seq"
  | .mapping t _ _ => if t != "" && t != "!" then shortTag t else "!!map"
  | .alias _ _ _ => ""

/-- The tag a node stands for: an alias takes its target's. -/
def effectiveTag : Node → String
  | .alias _ (some t) _ => t.tag
  | n => n.tag

/-- Whether a key is the merge key `<<`. -/
def isMerge : Node → Bool
  | .scalar t text _ _ => text == "<<" && (t == "" || t == "!" || shortTag t == "!!merge")
  | _ => false

end Node

/-- What an anchor name stands for: a node still being read, or a finished one. -/
inductive AnchorSlot where
  | reading (id : Nat)
  | done (n : Node)
  deriving Inhabited

/-- The state of building the tree: the parser, an event looked at but not taken, and the
anchors so far. -/
structure Composer where
  parser : Parser
  pending : Option Event := none
  anchors : List (String × AnchorSlot) := []
  nextId : Nat := 0
  deriving Inhabited

/-- The steps of building the tree. -/
abbrev ComposeM := StateT Composer (Except Problem)

namespace Composer

/-- The next event, read if need be. -/
def peek : ComposeM Event := do
  let c ← get
  match c.pending with
  | some e => pure e
  | none =>
    match StateT.run Parser.next c.parser with
    | .error e => throw e
    | .ok (some e, p) =>
      set { c with parser := p, pending := some e }
      pure e
    | .ok (none, p) =>
      set { c with parser := p }
      throw (Problem.plain "attempted to go past the end of stream; corrupted value?")

/-- Takes the event looked at. -/
def take : ComposeM Unit :=
  modify fun c => { c with pending := none }

/-- Binds an anchor name to a node, replacing what it stood for. -/
def bind (name : String) (slot : AnchorSlot) : ComposeM Unit :=
  if name.isEmpty then pure ()
  else modify fun c => { c with anchors := (name, slot) :: c.anchors.filter (·.1 != name) }

/-- Binds an anchor to a collection about to be read; gives its number. -/
def openAnchor (name : String) : ComposeM Nat := do
  let c ← get
  set { c with nextId := c.nextId + 1 }
  bind name (.reading c.nextId)
  pure c.nextId

/-- Binds an anchor to the finished collection, unless the name was bound again inside it. -/
def closeAnchor (name : String) (id : Nat) (n : Node) : ComposeM Unit := do
  match (← get).anchors.find? (·.1 == name) with
  | some (_, .reading i) => if i == id then bind name (.done n)
  | _ => pure ()

/-- How deep the tree may go: one level per character is more than any text holds. -/
def fuel : ComposeM Nat := do
  pure ((← get).parser.scanner.input.size + 2)

/-- Reads one node and everything inside it. -/
def node : Nat → ComposeM Node
  | 0 => throw (Problem.plain "attempted to go past the end of stream; corrupted value?")
  | depth + 1 => do
    let e ← peek
    let line := e.startMark.line + 1
    match e.kind with
    | .scalar anchor tag text style =>
      take
      let n := Node.scalar tag text style line
      bind anchor (.done n)
      pure n
    | .alias name =>
      match (← get).anchors.find? (·.1 == name) with
      | none => throw (Problem.plain ("unknown anchor '" ++ name ++ "' referenced"))
      | some (_, slot) =>
        take
        match slot with
        | .done n => pure (.alias name (some n) line)
        | .reading _ => pure (.alias name none line)
    | .sequenceStart anchor tag _ =>
      take
      let id ← openAnchor anchor
      let mut items : Array Node := #[]
      for _ in [0:(← fuel)] do
        if (← peek).kind == .sequenceEnd then break
        items := items.push (← node depth)
      take
      let n := Node.sequence tag items.toList line
      closeAnchor anchor id n
      pure n
    | .mappingStart anchor tag _ =>
      take
      let id ← openAnchor anchor
      let mut entries : Array (Node × Node) := #[]
      for _ in [0:(← fuel)] do
        if (← peek).kind == .mappingEnd then break
        let k ← node depth
        let v ← node depth
        entries := entries.push (k, v)
      take
      let n := Node.mapping tag entries.toList line
      closeAnchor anchor id n
      pure n
    | _ => throw (Problem.plain "attempted to parse unknown event")

/-- The first document of a text, or `none` for a text with no document. -/
def firstDocument : ComposeM (Option Node) := do
  let _ ← peek
  take
  let e ← peek
  match e.kind with
  | .streamEnd => pure none
  | _ =>
    take
    let n ← node (← fuel)
    let _ ← peek
    take
    pure (some n)

end Composer

/-- Reads the first document of a YAML text into a tree. -/
def readDocument (text : String) : Except Problem (Option Node) :=
  (Composer.firstDocument.run { parser := Parser.start text }).map (·.1)

end Regress.Yaml
