import Regress.Yaml.Scanner

/-!
# Parsing YAML tokens into events

The parser is a state machine over the scanner's tokens. Each call gives one event: a stream
or document starting or ending, a scalar, an alias, or a collection starting or ending. A stack
of states says where to go back to once a node is done, and a stack of marks remembers where
each open collection began, for the messages of the problems found inside it.

A node may be left out where the grammar allows: a `-` with nothing after it, a key with no
value, a value with no key. The parser then gives an empty plain scalar.

Only `%YAML 1.1` is accepted as a version directive. Tag handles are expanded with the `%TAG`
directives of the document and the two default handles `!` and `!!`.
-/

namespace Regress.Yaml

/-- What an event is, with what it carries. An empty anchor or tag means there is none. -/
inductive EventKind where
  | streamStart
  | streamEnd
  | documentStart (implicit : Bool)
  | documentEnd (implicit : Bool)
  | alias (name : String)
  | scalar (anchor tag text : String) (style : ScalarStyle)
  | sequenceStart (anchor tag : String) (flow : Bool)
  | sequenceEnd
  | mappingStart (anchor tag : String) (flow : Bool)
  | mappingEnd
  deriving Repr, DecidableEq, Inhabited

/-- An event and where it lies. -/
structure Event where
  kind : EventKind
  startMark : Mark
  endMark : Mark
  deriving Repr, Inhabited

/-- Where the parser is in the grammar. -/
inductive ParseState where
  | streamStart
  | implicitDocumentStart
  | documentStart
  | documentContent
  | documentEnd
  | blockNode
  | blockSequenceFirstEntry
  | blockSequenceEntry
  | indentlessSequenceEntry
  | blockMappingFirstKey
  | blockMappingKey
  | blockMappingValue
  | flowSequenceFirstEntry
  | flowSequenceEntry
  | flowSequenceEntryMappingKey
  | flowSequenceEntryMappingValue
  | flowSequenceEntryMappingEnd
  | flowMappingFirstKey
  | flowMappingKey
  | flowMappingValue
  | flowMappingEmptyValue
  | finished
  deriving Repr, DecidableEq, Inhabited

/-- The parser's state between events. -/
structure Parser where
  scanner : Scanner
  state : ParseState := .streamStart
  states : List ParseState := []
  marks : List Mark := []
  tagDirectives : List (String × String) := []
  deriving Inhabited

/-- The parser's steps. -/
abbrev ParseM := StateT Parser (Except Problem)

/-- The handles every document knows. -/
def defaultTagDirectives : List (String × String) :=
  [("!", "!"), ("!!", "tag:yaml.org,2002:")]

namespace Parser

/-- A parser at the start of a text. -/
def start (text : String) : Parser :=
  { scanner := Scanner.start text }

/-- Runs a scanner step on the parser's scanner. -/
def scan (m : ScanM α) : ParseM α := do
  let p ← get
  match m.run p.scanner with
  | .ok (a, s) =>
    set { p with scanner := s }
    pure a
  | .error e => throw e

/-- The next token. -/
def peekToken : ParseM Token :=
  scan Scanner.peek

/-- Takes the next token. -/
def skipToken : ParseM Unit :=
  scan Scanner.skipToken

/-- Stops at a problem at `m`. -/
def failAt (problem : String) (m : Mark) : ParseM α :=
  throw ⟨problem, m, ⟨0, 0, 0⟩, false⟩

/-- Stops at a problem at `m` inside the construct that began at `context`. -/
def failIn (context : Mark) (problem : String) (m : Mark) : ParseM α :=
  throw ⟨problem, m, context, false⟩

/-- Goes to state `s`. -/
def goTo (s : ParseState) : ParseM Unit :=
  modify fun p => { p with state := s }

/-- Remembers the state to come back to. -/
def pushState (s : ParseState) : ParseM Unit :=
  modify fun p => { p with states := s :: p.states }

/-- Comes back to the last remembered state. -/
def popState : ParseM Unit :=
  modify fun p => match p.states with
    | s :: rest => { p with state := s, states := rest }
    | [] => { p with state := .finished }

/-- Remembers where a collection began. -/
def pushMark (m : Mark) : ParseM Unit :=
  modify fun p => { p with marks := m :: p.marks }

/-- Forgets where the innermost collection began, giving it. -/
def popMark : ParseM Mark := do
  let p ← get
  match p.marks with
  | m :: rest =>
    set { p with marks := rest }
    pure m
  | [] => pure ⟨0, 0, 0⟩

/-- An empty plain scalar at `m`, for a node left out. -/
def emptyScalar (m : Mark) : Event :=
  ⟨.scalar "" "" "" .plain, m, m⟩

/-- How many rounds a loop over tokens may take. -/
def fuel : ParseM Nat := do
  let p ← get
  pure (p.scanner.input.size + 4)

/-- Adds a `%TAG` directive; a handle already known is a problem unless duplicates are
allowed, when the known one stays. -/
def appendTagDirective (handle pfx : String) (allowDuplicates : Bool) (m : Mark) : ParseM Unit := do
  let p ← get
  if p.tagDirectives.any (·.1 == handle) then
    if allowDuplicates then return
    failAt "found duplicate %TAG directive" m
  set { p with tagDirectives := p.tagDirectives ++ [(handle, pfx)] }

/-- Takes the directives before a document, then adds the default handles. -/
def processDirectives : ParseM Unit := do
  let mut versionSeen := false
  for _ in [0:(← fuel)] do
    let t ← peekToken
    match t.kind with
    | .versionDirective major minor =>
      if versionSeen then failAt "found duplicate %YAML directive" t.startMark
      if major != 1 || minor != 1 then failAt "found incompatible YAML document" t.startMark
      versionSeen := true
      skipToken
    | .tagDirective handle pfx =>
      appendTagDirective handle pfx false t.startMark
      skipToken
    | _ => break
  let t ← peekToken
  for (h, x) in defaultTagDirectives do
    appendTagDirective h x true t.startMark

/-- Whether a token is a directive. -/
def isDirective (t : Token) : Bool :=
  match t.kind with
  | .versionDirective _ _ | .tagDirective _ _ => true
  | _ => false

/-- The start of the stream. -/
def streamStartEvent : ParseM Event := do
  let t ← peekToken
  if t.kind != .streamStart then failAt "did not find expected <stream-start>" t.startMark
  goTo .implicitDocumentStart
  skipToken
  pure ⟨.streamStart, t.startMark, t.endMark⟩

/-- The start of a document, or the end of the stream. The first document may start without
`---`; a later one needs it. -/
def documentStartEvent (implicit : Bool) : ParseM Event := do
  let mut t ← peekToken
  if !implicit then
    for _ in [0:(← fuel)] do
      if t.kind == .documentEnd then
        skipToken
        t ← peekToken
      else break
  if implicit && !(isDirective t || t.kind == .documentStart || t.kind == .streamEnd) then
    processDirectives
    pushState .documentEnd
    goTo .blockNode
    pure ⟨.documentStart true, t.startMark, t.startMark⟩
  else if t.kind != .streamEnd then
    let startMark := t.startMark
    processDirectives
    let d ← peekToken
    if d.kind != .documentStart then failAt "did not find expected <document start>" d.startMark
    pushState .documentEnd
    goTo .documentContent
    skipToken
    pure ⟨.documentStart false, startMark, d.endMark⟩
  else
    goTo .finished
    skipToken
    pure ⟨.streamEnd, t.startMark, t.endMark⟩

/-- The end of a document, with or without `...`. -/
def documentEndEvent : ParseM Event := do
  let t ← peekToken
  let mut endMark := t.startMark
  let mut implicit := true
  if t.kind == .documentEnd then
    endMark := t.endMark
    skipToken
    implicit := false
  modify fun p => { p with tagDirectives := [] }
  goTo .documentStart
  pure ⟨.documentEnd implicit, t.startMark, endMark⟩

/-- A node: an alias, or a scalar or collection with an optional anchor and tag in either
order. In a block mapping a `-` at the key's own indentation starts a sequence without
indentation. An anchor or tag with nothing after it is an empty scalar. -/
def node (block indentless : Bool) : ParseM Event := do
  let t ← peekToken
  if let .alias name := t.kind then
    popState
    skipToken
    return ⟨.alias name, t.startMark, t.endMark⟩
  let startMark := t.startMark
  let mut endMark := t.startMark
  let mut anchor := ""
  let mut tagToken : Option (String × String × Mark) := none
  let mut t := t
  match t.kind with
  | .anchor a =>
    anchor := a
    endMark := t.endMark
    skipToken
    t ← peekToken
    if let .tag h s := t.kind then
      tagToken := some (h, s, t.startMark)
      endMark := t.endMark
      skipToken
      t ← peekToken
  | .tag h s =>
    tagToken := some (h, s, t.startMark)
    endMark := t.endMark
    skipToken
    t ← peekToken
    if let .anchor a := t.kind then
      anchor := a
      endMark := t.endMark
      skipToken
      t ← peekToken
  | _ => pure ()
  let mut tag := ""
  if let some (handle, suffix, tagMark) := tagToken then
    if handle.isEmpty then tag := suffix
    else
      match (← get).tagDirectives.find? (·.1 == handle) with
      | some (_, pfx) => tag := pfx ++ suffix
      | none => failIn startMark "found undefined tag handle" tagMark
  if indentless && t.kind == .blockEntry then
    goTo .indentlessSequenceEntry
    return ⟨.sequenceStart anchor tag false, startMark, t.endMark⟩
  match t.kind with
  | .scalar text style =>
    popState
    skipToken
    return ⟨.scalar anchor tag text style, startMark, t.endMark⟩
  | .flowSequenceStart =>
    goTo .flowSequenceFirstEntry
    return ⟨.sequenceStart anchor tag true, startMark, t.endMark⟩
  | .flowMappingStart =>
    goTo .flowMappingFirstKey
    return ⟨.mappingStart anchor tag true, startMark, t.endMark⟩
  | .blockSequenceStart =>
    if block then
      goTo .blockSequenceFirstEntry
      return ⟨.sequenceStart anchor tag false, startMark, t.endMark⟩
  | .blockMappingStart =>
    if block then
      goTo .blockMappingFirstKey
      return ⟨.mappingStart anchor tag false, startMark, t.endMark⟩
  | _ => pure ()
  if !anchor.isEmpty || !tag.isEmpty then
    popState
    return ⟨.scalar anchor tag "" .plain, startMark, endMark⟩
  failIn startMark "did not find expected node content" t.startMark

/-- Takes the opening token of a collection and remembers where it began. -/
def openCollection : ParseM Unit := do
  let t ← peekToken
  pushMark t.startMark
  skipToken

/-- An entry of a block sequence, or its end. -/
def blockSequenceEntry (first : Bool) : ParseM Event := do
  if first then openCollection
  let t ← peekToken
  if t.kind == .blockEntry then
    let m := t.endMark
    skipToken
    let t ← peekToken
    if t.kind != .blockEntry && t.kind != .blockEnd then
      pushState .blockSequenceEntry
      node true false
    else
      goTo .blockSequenceEntry
      pure (emptyScalar m)
  else if t.kind == .blockEnd then
    popState
    let _ ← popMark
    skipToken
    pure ⟨.sequenceEnd, t.startMark, t.endMark⟩
  else
    let context ← popMark
    failIn context "did not find expected '-' indicator" t.startMark

/-- An entry of a sequence written at its mapping's indentation, or its end. -/
def indentlessSequenceEntry : ParseM Event := do
  let t ← peekToken
  if t.kind == .blockEntry then
    let m := t.endMark
    skipToken
    let t ← peekToken
    if t.kind != .blockEntry && t.kind != .key && t.kind != .value && t.kind != .blockEnd then
      pushState .indentlessSequenceEntry
      node true false
    else
      goTo .indentlessSequenceEntry
      pure (emptyScalar m)
  else
    popState
    pure ⟨.sequenceEnd, t.startMark, t.startMark⟩

/-- A key of a block mapping, or its end. -/
def blockMappingKey (first : Bool) : ParseM Event := do
  if first then openCollection
  let t ← peekToken
  if t.kind == .key then
    let m := t.endMark
    skipToken
    let t ← peekToken
    if t.kind != .key && t.kind != .value && t.kind != .blockEnd then
      pushState .blockMappingValue
      node true true
    else
      goTo .blockMappingValue
      pure (emptyScalar m)
  else if t.kind == .blockEnd then
    popState
    let _ ← popMark
    skipToken
    pure ⟨.mappingEnd, t.startMark, t.endMark⟩
  else
    let context ← popMark
    failIn context "did not find expected key" t.startMark

/-- A value of a block mapping. -/
def blockMappingValue : ParseM Event := do
  let t ← peekToken
  if t.kind == .value then
    let m := t.endMark
    skipToken
    let t ← peekToken
    if t.kind != .key && t.kind != .value && t.kind != .blockEnd then
      pushState .blockMappingKey
      node true true
    else
      goTo .blockMappingKey
      pure (emptyScalar m)
  else
    goTo .blockMappingKey
    pure (emptyScalar t.startMark)

/-- An entry of a flow sequence, or its end. An entry with a key is a one-pair mapping. -/
def flowSequenceEntry (first : Bool) : ParseM Event := do
  if first then openCollection
  let mut t ← peekToken
  if t.kind != .flowSequenceEnd then
    if !first then
      if t.kind == .flowEntry then
        skipToken
        t ← peekToken
      else
        let context ← popMark
        failIn context "did not find expected ',' or ']'" t.startMark
    if t.kind == .key then
      goTo .flowSequenceEntryMappingKey
      skipToken
      return ⟨.mappingStart "" "" true, t.startMark, t.endMark⟩
    else if t.kind != .flowSequenceEnd then
      pushState .flowSequenceEntry
      return ← node false false
  popState
  let _ ← popMark
  skipToken
  pure ⟨.sequenceEnd, t.startMark, t.endMark⟩

/-- The key of a one-pair mapping in a flow sequence. -/
def flowSequenceEntryMappingKey : ParseM Event := do
  let t ← peekToken
  if t.kind != .value && t.kind != .flowEntry && t.kind != .flowSequenceEnd then
    pushState .flowSequenceEntryMappingValue
    node false false
  else
    goTo .flowSequenceEntryMappingValue
    pure (emptyScalar t.endMark)

/-- The value of a one-pair mapping in a flow sequence. -/
def flowSequenceEntryMappingValue : ParseM Event := do
  let t ← peekToken
  if t.kind == .value then
    skipToken
    let t' ← peekToken
    if t'.kind != .flowEntry && t'.kind != .flowSequenceEnd then
      pushState .flowSequenceEntryMappingEnd
      return ← node false false
  goTo .flowSequenceEntryMappingEnd
  pure (emptyScalar t.startMark)

/-- The end of a one-pair mapping in a flow sequence. -/
def flowSequenceEntryMappingEnd : ParseM Event := do
  goTo .flowSequenceEntry
  let t ← peekToken
  pure ⟨.mappingEnd, t.startMark, t.startMark⟩

/-- A key of a flow mapping, or its end. -/
def flowMappingKey (first : Bool) : ParseM Event := do
  if first then openCollection
  let mut t ← peekToken
  if t.kind != .flowMappingEnd then
    if !first then
      if t.kind == .flowEntry then
        skipToken
        t ← peekToken
      else
        let context ← popMark
        failIn context "did not find expected ',' or '\x7d'" t.startMark
    if t.kind == .key then
      skipToken
      let k ← peekToken
      if k.kind != .value && k.kind != .flowEntry && k.kind != .flowMappingEnd then
        pushState .flowMappingValue
        return ← node false false
      else
        goTo .flowMappingValue
        return emptyScalar k.startMark
    else if t.kind != .flowMappingEnd then
      pushState .flowMappingEmptyValue
      return ← node false false
  popState
  let _ ← popMark
  skipToken
  pure ⟨.mappingEnd, t.startMark, t.endMark⟩

/-- A value of a flow mapping; after a key with no `:` it is empty. -/
def flowMappingValue (empty : Bool) : ParseM Event := do
  let t ← peekToken
  if empty then
    goTo .flowMappingKey
    return emptyScalar t.startMark
  if t.kind == .value then
    skipToken
    let t' ← peekToken
    if t'.kind != .flowEntry && t'.kind != .flowMappingEnd then
      pushState .flowMappingKey
      return ← node false false
    goTo .flowMappingKey
    return emptyScalar t'.startMark
  goTo .flowMappingKey
  pure (emptyScalar t.startMark)

/-- The next event, or `none` once the stream has ended. -/
def next : ParseM (Option Event) := do
  match (← get).state with
  | .streamStart => some <$> streamStartEvent
  | .implicitDocumentStart => some <$> documentStartEvent true
  | .documentStart => some <$> documentStartEvent false
  | .documentContent =>
    let t ← peekToken
    match t.kind with
    | .versionDirective _ _ | .tagDirective _ _ | .documentStart | .documentEnd | .streamEnd =>
      popState
      pure (some (emptyScalar t.startMark))
    | _ => some <$> node true false
  | .documentEnd => some <$> documentEndEvent
  | .blockNode => some <$> node true false
  | .blockSequenceFirstEntry => some <$> blockSequenceEntry true
  | .blockSequenceEntry => some <$> blockSequenceEntry false
  | .indentlessSequenceEntry => some <$> indentlessSequenceEntry
  | .blockMappingFirstKey => some <$> blockMappingKey true
  | .blockMappingKey => some <$> blockMappingKey false
  | .blockMappingValue => some <$> blockMappingValue
  | .flowSequenceFirstEntry => some <$> flowSequenceEntry true
  | .flowSequenceEntry => some <$> flowSequenceEntry false
  | .flowSequenceEntryMappingKey => some <$> flowSequenceEntryMappingKey
  | .flowSequenceEntryMappingValue => some <$> flowSequenceEntryMappingValue
  | .flowSequenceEntryMappingEnd => some <$> flowSequenceEntryMappingEnd
  | .flowMappingFirstKey => some <$> flowMappingKey true
  | .flowMappingKey => some <$> flowMappingKey false
  | .flowMappingValue => some <$> flowMappingValue false
  | .flowMappingEmptyValue => some <$> flowMappingValue true
  | .finished => pure none

end Parser

end Regress.Yaml
