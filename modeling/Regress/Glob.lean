import Regress.Text.Utf8

/-!
# Shell patterns

A pattern is read as a list of segments: a run of stars, then a chunk up to the next star that
stands outside brackets. In a chunk, `?` matches one character other than a slash, `[...]` one
character in (after `^`, out of) a list of ranges, `\` makes the next character literal, and any
other character matches itself. A star matches any run of octets without a slash.

The name is matched as octets. A star gives up its text one octet at a time, so the rest of the
pattern may start in the middle of a character, where `?` and a class read the stray octet as
one character (`Utf8.decodeHead`). A malformed class, one with an octet that starts no
character as a bound of a range, or a trailing backslash makes the whole pattern malformed: `matches` is then `none` for every name, since a chunk that fails to match
still has the rest of the pattern checked.
-/

namespace Regress.Glob

open Regress.Utf8

/-- A run of stars (possibly empty) and the chunk after it. -/
structure Segment where
  star : Bool
  chunk : List Char
  deriving Repr, DecidableEq

/-- One element of a chunk. -/
inductive Element where
  /-- A character that matches its own octets. -/
  | literal (c : Char)
  /-- `?`: one character other than a slash. -/
  | anyChar
  /-- `[...]`: one character within (or, negated, outside) the ranges. -/
  | oneOf (negated : Bool) (ranges : List (Char × Char))
  deriving Repr, DecidableEq

/-- Splits a pattern into segments. `star` tells whether the current segment opened with stars,
`inClass` whether the scan stands inside brackets, and `chunk` holds the chunk so far, last
character first. A backslash carries the character after it into the chunk. -/
def segmentsFrom : List Char → Bool → Bool → List Char → List Segment
  | [], star, _, chunk => [⟨star, chunk.reverse⟩]
  | '*' :: rest, star, inClass, chunk =>
    if chunk.isEmpty then segmentsFrom rest true false []
    else if inClass then segmentsFrom rest star true ('*' :: chunk)
    else ⟨star, chunk.reverse⟩ :: segmentsFrom rest true false []
  | '\\' :: c :: rest, star, inClass, chunk => segmentsFrom rest star inClass (c :: '\\' :: chunk)
  | '[' :: rest, star, _, chunk => segmentsFrom rest star true ('[' :: chunk)
  | ']' :: rest, star, _, chunk => segmentsFrom rest star false (']' :: chunk)
  | c :: rest, star, inClass, chunk => segmentsFrom rest star inClass (c :: chunk)

/-- The segments of a pattern; the empty pattern has none. -/
def segments (p : List Char) : List Segment :=
  if p.isEmpty then [] else segmentsFrom p false false []

/-- Where the reading of a chunk stands between two characters. Inside brackets, `negated` tells
whether the class opened with `^` and `ranges` holds the ranges read so far, last first. -/
inductive ChunkState where
  /-- Outside brackets. -/
  | plain
  /-- After a backslash outside brackets. -/
  | escaped
  /-- Right after `[`, where `^` negates the class. -/
  | opened
  /-- Before a range, or before the `]` that closes a class with at least one range. -/
  | expect (negated : Bool) (ranges : List (Char × Char))
  /-- After a backslash that starts a range. -/
  | escapedLow (negated : Bool) (ranges : List (Char × Char))
  /-- After the low end of a range; something must follow it. -/
  | low (negated : Bool) (ranges : List (Char × Char)) (lo : Char)
  /-- After `lo-`, before the high end. -/
  | dash (negated : Bool) (ranges : List (Char × Char)) (lo : Char)
  /-- After `lo-\`. -/
  | escapedHigh (negated : Bool) (ranges : List (Char × Char)) (lo : Char)
  /-- After a whole range `lo-hi`; something must follow it. -/
  | high (negated : Bool) (ranges : List (Char × Char)) (lo hi : Char)
  deriving Repr, DecidableEq

/-- The character `c` read as a bound of a range, going on in `next`: an octet that starts no
character bounds no range. -/
def boundStep (c : Char) (next : ChunkState) : Option (ChunkState × Option Element) :=
  if isRaw c then none else some (next, none)

/-- A character where a range or the closing `]` may stand. A `-` cannot start a range, and a
`]` closes the class only after a range. -/
def expectStep (negated : Bool) (ranges : List (Char × Char)) (c : Char) :
    Option (ChunkState × Option Element) :=
  if c = ']' then
    if ranges.isEmpty then none else some (.plain, some (.oneOf negated ranges.reverse))
  else if c = '-' then none
  else if c = '\\' then some (.escapedLow negated ranges, none)
  else boundStep c (.low negated ranges c)

/-- One character of a chunk: the next state and the element it completes, or `none` where the
chunk is malformed. -/
def ChunkState.step : ChunkState → Char → Option (ChunkState × Option Element)
  | .plain, c =>
    if c = '[' then some (.opened, none)
    else if c = '?' then some (.plain, some .anyChar)
    else if c = '\\' then some (.escaped, none)
    else some (.plain, some (.literal c))
  | .escaped, c => some (.plain, some (.literal c))
  | .opened, c => if c = '^' then some (.expect true [], none) else expectStep false [] c
  | .expect negated ranges, c => expectStep negated ranges c
  | .escapedLow negated ranges, c => boundStep c (.low negated ranges c)
  | .low negated ranges lo, c =>
    if c = '-' then some (.dash negated ranges lo, none)
    else expectStep negated ((lo, lo) :: ranges) c
  | .dash negated ranges lo, c =>
    if c = '-' ∨ c = ']' then none
    else if c = '\\' then some (.escapedHigh negated ranges lo, none)
    else boundStep c (.high negated ranges lo c)
  | .escapedHigh negated ranges lo, c => boundStep c (.high negated ranges lo c)
  | .high negated ranges lo hi, c => expectStep negated ((lo, hi) :: ranges) c

/-- Reads the rest of a chunk from a state: its elements, or `none` when it is malformed. Only
the plain state may end a chunk. -/
def ChunkState.read : ChunkState → List Char → Option (List Element)
  | .plain, [] => some []
  | _, [] => none
  | st, c :: rest =>
    match st.step c with
    | none => none
    | some (next, none) => next.read rest
    | some (next, some e) => (next.read rest).map (e :: ·)

/-- The elements of a chunk, or `none` when the chunk is malformed. -/
def parseChunk (cs : List Char) : Option (List Element) :=
  ChunkState.plain.read cs

/-- Whether a character lies in one of the ranges. -/
def inRanges (r : Char) (ranges : List (Char × Char)) : Bool :=
  ranges.any fun range => range.1 ≤ r && r ≤ range.2

/-- Matches the elements of a chunk against the front of a name: the octets left over, or
`none` when they do not match. -/
def matchElements : List Element → List UInt8 → Option (List UInt8)
  | [], s => some s
  | .literal c :: es, s =>
    let bs := ofChar c
    if bs.isPrefixOf s then matchElements es (s.drop bs.length) else none
  | .anyChar :: es, s =>
    match s with
    | [] => none
    | b :: _ => if b = 47 then none else matchElements es (decodeHead s).2
  | .oneOf negated ranges :: es, s =>
    match s with
    | [] => none
    | _ =>
      let (r, rest) := decodeHead s
      if inRanges r ranges != negated then matchElements es rest else none

/-- Tries the chunk at each later octet of the name, up to the first slash, and gives the
octets left after the first place it matches. When `last` holds the match must use up the name. -/
def seek (es : List Element) (last : Bool) : List UInt8 → Option (List UInt8)
  | [] => none
  | b :: s =>
    if b = 47 then none
    else
      match matchElements es s with
      | some t => if last && !t.isEmpty then seek es last s else some t
      | none => seek es last s

/-- A segment whose chunk is well formed. -/
def Segment.wellFormed (seg : Segment) : Bool :=
  (parseChunk seg.chunk).isSome

/-- Matches a list of segments against a whole name, or `none` for a malformed pattern. Each
chunk first tries the front of the name; after a star it then tries the later octets, and a
failure is only final when the rest of the pattern is well formed. -/
def matchSegments : List Segment → List UInt8 → Option Bool
  | [], name => some name.isEmpty
  | seg :: more, name =>
    if seg.star && seg.chunk.isEmpty then some !(name.contains 47)
    else
      match parseChunk seg.chunk with
      | none => none
      | some es =>
        let giveUp : Option Bool := if more.all Segment.wellFormed then some false else none
        let retry : Option Bool :=
          if seg.star then
            match seek es more.isEmpty name with
            | some t => matchSegments more t
            | none => giveUp
          else giveUp
        match matchElements es name with
        | some t => if t.isEmpty || !more.isEmpty then matchSegments more t else retry
        | none => retry

/-- Whether `name` matches `pattern`, or `none` when the pattern is malformed. -/
def accepts (pattern name : String) : Option Bool :=
  matchSegments (segments pattern.toList) (octets name)

end Regress.Glob
