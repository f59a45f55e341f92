/-!
# Regular expressions

POSIX regular expressions in their two syntaxes, with the GNU extensions.

* **Basic** (`grep`, `sed`): `\(` `\)` group, `\{m,n\}` repeats, `*` repeats; `\+`, `\?` and
  `\|` are the extensions for one or more, at most one and alternatives. `*` at the start of an
  expression or a group is an ordinary character, and so are `^` and `$` away from the ends.
* **Extended** (`grep -E`, `sed -E`): `(` `)`, `{m,n}`, `*`, `+`, `?` and `|` are operators, and
  `^` and `$` anchor anywhere.
* In both, `.` is any character, `[...]` a set of characters with ranges and classes such as
  `[:digit:]` (`^` first makes it the complement, `]` first is itself, and a backslash inside is
  itself), `\1` to `\9` match a group again, and `\w`, `\W`, `\s`, `\S`, `\b`, `\B`, `\<` and
  `\>` are the word extensions. Any other character after a backslash stands for itself.
* Where Perl's lookahead is read, `(?=...)` matches the empty text where what it holds matches
  from there on, and `(?!...)` where it does not.

A match is the leftmost one, and of those starting there the longest: the rule of POSIX. Its
groups are those of the first way, in order of preference, to match that far. A malformed
expression gives the message the GNU tools print for it.
-/

namespace Regress

/-- A regular expression. Groups are numbered from one in the order they open. -/
inductive Regex where
  | empty
  | char (c : Char)
  | any
  | set (negated : Bool) (ranges : List (Char × Char))
  | lineStart
  | lineEnd
  | wordBoundary (inside : Bool)
  | wordEdge (atStart : Bool)
  | seq (a b : Regex)
  | alt (a b : Regex)
  | repeat (r : Regex) (least : Nat) (most : Option Nat)
  | group (index : Nat) (r : Regex)
  | backref (index : Nat)
  | ahead (negated : Bool) (r : Regex)
  deriving Repr, Inhabited

/-- A syntax of regular expressions: basic or extended, whether a repeat with nothing
before it, or a malformed interval, is an error (`strict`) or read leniently, and whether
`(?=...)` and `(?!...)` are lookahead assertions, as in Perl. -/
structure RegexSyntax where
  extended : Bool
  strict : Bool
  lookahead : Bool
  deriving Repr, DecidableEq, Inhabited

/-- Where an atom stands in its branch: first, right after an anchor, or after another atom.
A repeat operator in the first two places has nothing to repeat. -/
inductive BranchPlace where
  | first
  | afterAnchor
  | inside
  deriving Repr, DecidableEq, Inhabited

namespace Regex

/-- Any number of repeats of an expression. -/
def star (r : Regex) : Regex :=
  .repeat r 0 none

/-- The size of a pattern, which bounds how deep matching recurses. -/
def size : Regex → Nat
  | .seq a b => a.size + b.size + 1
  | .alt a b => a.size + b.size + 1
  | .repeat r _ _ => r.size + 1
  | .group _ r => r.size + 1
  | .ahead _ r => r.size + 1
  | _ => 1

/-- The spans captured so far, by group number. -/
abbrev Captures := List (Nat × Nat × Nat)

/-- The ranges of a character class of the C locale, by name. -/
def classRanges : String → Option (List (Char × Char))
  | "alpha" => some [('a', 'z'), ('A', 'Z')]
  | "digit" => some [('0', '9')]
  | "alnum" => some [('a', 'z'), ('A', 'Z'), ('0', '9')]
  | "upper" => some [('A', 'Z')]
  | "lower" => some [('a', 'z')]
  | "space" => some [(' ', ' '), ('\t', '\r')]
  | "blank" => some [(' ', ' '), ('\t', '\t')]
  | "punct" => some [('!', '/'), (':', '@'), ('[', '\x60'), ('\x7b', '~')]
  | "print" => some [(' ', '~')]
  | "graph" => some [('!', '~')]
  | "cntrl" => some [('\x00', '\x1f'), ('\x7f', '\x7f')]
  | "xdigit" => some [('0', '9'), ('a', 'f'), ('A', 'F')]
  | _ => none

/-- The word characters: letters, digits and `_`. -/
def wordRanges : List (Char × Char) :=
  [('a', 'z'), ('A', 'Z'), ('0', '9'), ('_', '_')]

/-- The message for a bracket expression that is not closed. -/
def unmatchedBracket : String := "Unmatched [, [^, [:, [., or [="

/-- The items of a bracket expression after its `[` and optional `^`, up to its `]`: the
ranges and the rest of the pattern. -/
def bracketItems : Nat → Bool → List Char → List (Char × Char) →
    Except String (List (Char × Char) × List Char)
  | 0, _, _, _ => .error unmatchedBracket
  | _ + 1, _, [], _ => .error unmatchedBracket
  | fuel + 1, first, c :: rest, acc =>
    if c == ']' && !first then .ok (acc.reverse, rest)
    else if c == '[' && (rest.head? == some ':' || rest.head? == some '=' || rest.head? == some '.') then
      let kind := rest.headD ':'
      let body := (rest.drop 1)
      let name := body.takeWhile (· != kind)
      let after := body.drop name.length
      match after with
      | k :: ']' :: more =>
        if k != kind then .error unmatchedBracket
        else if kind == ':' then
          match classRanges (String.ofList name) with
          | some rs => bracketItems fuel false more (rs.reverse ++ acc)
          | none => .error "Invalid character class name"
        else
          match name with
          | [x] => bracketItems fuel false more ((x, x) :: acc)
          | _ => .error "Invalid collation character"
      | _ => .error unmatchedBracket
    else
      match rest with
      | '-' :: hi :: rest' =>
        if hi == ']' then bracketItems fuel false ('-' :: hi :: rest') ((c, c) :: acc)
        else if hi < c then .error "Invalid range end"
        else bracketItems fuel false rest' ((c, hi) :: acc)
      | _ => bracketItems fuel false rest ((c, c) :: acc)

/-- A bracket expression after its `[`: whether it is negated, its ranges and the rest. A
pattern that ends right after the `[` or its `^` is malformed as a whole rather than an
unclosed bracket. -/
def bracket (cs : List Char) : Except String (Bool × List (Char × Char) × List Char) :=
  let (negated, cs) := match cs with
    | '^' :: r => (true, r)
    | r => (false, r)
  if cs.isEmpty then .error "Invalid regular expression" else
  (bracketItems (cs.length + 1) true cs []).map fun (rs, rest) => (negated, rs, rest)

/-- Reads the bounds of an interval after its opening brace, up to its closing one (`\}` in
basic syntax): the least and most repeats and the rest. -/
def interval (syn : RegexSyntax) (cs : List Char) : Option (Nat × Option Nat × List Char) :=
  let digits (xs : List Char) : Option Nat × List Char :=
    let ds := xs.takeWhile Char.isDigit
    (if ds.isEmpty then none else (String.ofList ds).toNat?, xs.drop ds.length)
  let closing (xs : List Char) : Option (List Char) :=
    match syn.extended, xs with
    | false, '\\' :: '\x7d' :: r => some r
    | true, '\x7d' :: r => some r
    | _, _ => none
  let (lo, rest) := digits cs
  match rest with
  | ',' :: more =>
    let (hi, rest') := digits more
    (closing rest').map fun r => (lo.getD 0, hi, r)
  | _ => lo.bind fun n => (closing rest).map fun r => (n, some n, r)

/-- The message for a malformed interval: its brace is never closed, or what it holds is not
a count. -/
def intervalError (syn : RegexSyntax) (cs : List Char) : String :=
  let rest := cs.dropWhile fun c => c.isDigit || c == ','
  let closes := if syn.extended then rest.head? == some '\x7d' else rest.take 2 == ['\\', '\x7d']
  if closes then "Invalid content of \\\x7b\\\x7d" else "Unmatched \\\x7b"

/-- What stops a branch: the end, an alternative bar or a closing parenthesis. -/
def branchEnd (syn : RegexSyntax) (depth : Nat) : List Char → Bool
  | [] => true
  | '\\' :: '|' :: _ => !syn.extended
  | '|' :: _ => syn.extended
  | '\\' :: ')' :: _ => !syn.extended && depth > 0
  | ')' :: _ => syn.extended && depth > 0
  | _ => false

/-- The repeat operator at the front, if any: its bounds and the rest, or the message for a
malformed interval. -/
def repeatOp (syn : RegexSyntax) (cs : List Char) :
    Option (Except String (Nat × Option Nat × List Char)) :=
  match syn.extended, cs with
  | _, '*' :: rest => some (.ok (0, none, rest))
  | false, '\\' :: '+' :: rest => some (.ok (1, none, rest))
  | false, '\\' :: '?' :: rest => some (.ok (0, some 1, rest))
  | true, '+' :: rest => some (.ok (1, none, rest))
  | true, '?' :: rest => some (.ok (0, some 1, rest))
  | false, '\\' :: '\x7b' :: rest =>
    match interval syn rest with
    | some (lo, hi, after) =>
      some (if hi.any (· < lo) then .error "Invalid content of \\\x7b\\\x7d" else .ok (lo, hi, after))
    | none => some (.error (intervalError syn rest))
  | true, '\x7b' :: rest =>
    match interval syn rest with
    | some (lo, hi, after) =>
      some (if hi.any (· < lo) then .error "Invalid content of \\\x7b\\\x7d" else .ok (lo, hi, after))
    | none => if syn.strict then some (.error (intervalError syn rest)) else none
  | _, _ => none

/-- Applies the repeat operators after an atom. -/
def quantifiers (syn : RegexSyntax) : Nat → Regex → List Char → Except String (Regex × List Char)
  | 0, r, cs => .ok (r, cs)
  | fuel + 1, r, cs =>
    match repeatOp syn cs with
    | some (.ok (lo, hi, rest)) => quantifiers syn fuel (.repeat r lo hi) rest
    | some (.error e) => .error e
    | none => .ok (r, cs)

/-- Whether an atom is an anchor, after which a repeat operator has nothing to repeat. -/
def isAnchor : Regex → Bool
  | .lineStart | .lineEnd | .wordBoundary _ | .wordEdge _ => true
  | _ => false

/-- The atom a backslash and a character stand for, outside groups and back references. -/
def escaped (d : Char) : Regex :=
  if d == 'w' then .set false wordRanges
  else if d == 'W' then .set true wordRanges
  else if d == 's' then .set false [(' ', ' '), ('\t', '\r')]
  else if d == 'S' then .set true [(' ', ' '), ('\t', '\r')]
  else if d == 'b' then .wordBoundary false
  else if d == 'B' then .wordBoundary true
  else if d == '<' then .wordEdge true
  else if d == '>' then .wordEdge false
  else if d == '\x60' then .lineStart
  else if d == '\x27' then .lineEnd
  else .char d

mutual

/-- Reads alternatives up to the end or a closing parenthesis at `depth`: the expression, the
rest, and the number of groups opened so far. -/
def parseAlt (syn : RegexSyntax) : Nat → Nat → List Char → Nat → Except String (Regex × List Char × Nat)
  | 0, _, _, _ => .error "Regular expression too big"
  | fuel + 1, depth, cs, groups => do
    let (first, rest, groups) ← parseBranch syn fuel depth cs groups .first
    match syn.extended, rest with
    | false, '\\' :: '|' :: more =>
      let (other, rest, groups) ← parseAlt syn fuel depth more groups
      pure (.alt first other, rest, groups)
    | true, '|' :: more =>
      let (other, rest, groups) ← parseAlt syn fuel depth more groups
      pure (.alt first other, rest, groups)
    | _, _ => pure (first, rest, groups)

/-- Reads the pieces of one branch from a place in it. -/
def parseBranch (syn : RegexSyntax) : Nat → Nat → List Char → Nat → BranchPlace →
    Except String (Regex × List Char × Nat)
  | 0, _, _, _, _ => .error "Regular expression too big"
  | fuel + 1, depth, cs, groups, place =>
    if branchEnd syn depth cs then .ok (.empty, cs, groups)
    else if place != .inside && (repeatOp syn cs).isSome then
      -- a repeat with nothing before it
      if !syn.extended then
        match cs with
        | '\\' :: '\x7b' :: rest =>
          if syn.strict then .error "Invalid preceding regular expression"
          else do
            let (tail, rest, groups) ← parseBranch syn fuel depth rest groups .inside
            pure (.seq (.char '\x7b') tail, rest, groups)
        | '\\' :: d :: rest => do
          let (tail, rest, groups) ← parseBranch syn fuel depth rest groups .inside
          pure (.seq (.char d) tail, rest, groups)
        | c :: rest => do
          let (piece, rest) ← quantifiers syn (rest.length + 1) (.char c) rest
          let (tail, rest, groups) ← parseBranch syn fuel depth rest groups .inside
          pure (.seq piece tail, rest, groups)
        | [] => .ok (.empty, [], groups)
      else if syn.strict then .error "Invalid preceding regular expression"
      else parseBranch syn fuel depth (cs.drop 1) groups place
    else do
      let (atom, rest, groups) ← parseAtom syn fuel depth cs groups place
      if isAnchor atom then
        let (tail, rest, groups) ← parseBranch syn fuel depth rest groups .afterAnchor
        pure (.seq atom tail, rest, groups)
      else
        let (piece, rest) ← quantifiers syn (rest.length + 1) atom rest
        let (tail, rest, groups) ← parseBranch syn fuel depth rest groups .inside
        pure (.seq piece tail, rest, groups)

/-- Reads one atom. -/
def parseAtom (syn : RegexSyntax) : Nat → Nat → List Char → Nat → BranchPlace →
    Except String (Regex × List Char × Nat)
  | 0, _, _, _, _ => .error "Regular expression too big"
  | fuel + 1, depth, cs, groups, place =>
    match cs with
    | [] => .ok (.empty, [], groups)
    | '^' :: rest =>
      if place == .first || syn.extended then .ok (.lineStart, rest, groups)
      else .ok (.char '^', rest, groups)
    | '$' :: rest =>
      if syn.extended || branchEnd syn depth rest then .ok (.lineEnd, rest, groups)
      else .ok (.char '$', rest, groups)
    | '.' :: rest => .ok (.any, rest, groups)
    | '[' :: rest => do
      let (neg, ranges, rest) ← bracket rest
      pure (.set neg ranges, rest, groups)
    | '\\' :: '(' :: rest =>
      if syn.extended then .ok (.char '(', rest, groups) else parseGroup syn fuel depth rest groups
    | '(' :: '?' :: k :: rest =>
      if syn.extended && syn.lookahead && (k == '=' || k == '!') then do
        let (body, after, g) ← parseAlt syn fuel (depth + 1) rest groups
        match after with
        | ')' :: more => pure (.ahead (k == '!') body, more, g)
        | _ => .error "Unmatched ( or \\("
      else if syn.extended then parseGroup syn fuel depth ('?' :: k :: rest) groups
      else .ok (.char '(', '?' :: k :: rest, groups)
    | '(' :: rest =>
      if syn.extended then parseGroup syn fuel depth rest groups else .ok (.char '(', rest, groups)
    | '\\' :: ')' :: rest =>
      if syn.extended then .ok (.char ')', rest, groups) else .error "Unmatched ) or \\)"
    | ')' :: rest =>
      if syn.extended then .error "Unmatched ) or \\)" else .ok (.char ')', rest, groups)
    | ['\\'] => .error "Trailing backslash"
    | '\\' :: d :: rest =>
      if '1' ≤ d && d ≤ '9' then
        let n := d.toNat - '0'.toNat
        if n > groups then .error "Invalid back reference" else .ok (.backref n, rest, groups)
      else .ok (escaped d, rest, groups)
    | c :: rest => .ok (.char c, rest, groups)

/-- Reads a group after its opening parenthesis. -/
def parseGroup (syn : RegexSyntax) : Nat → Nat → List Char → Nat →
    Except String (Regex × List Char × Nat)
  | 0, _, _, _ => .error "Regular expression too big"
  | fuel + 1, depth, rest, groups => do
    let index := groups + 1
    let (body, after, g) ← parseAlt syn fuel (depth + 1) rest index
    match syn.extended, after with
    | false, '\\' :: ')' :: more => pure (.group index body, more, g)
    | true, ')' :: more => pure (.group index body, more, g)
    | _, _ => .error "Unmatched ( or \\("

end

/-- Reads a regular expression in a syntax, or the message for a malformed one. -/
def parseWith (syn : RegexSyntax) (pattern : String) : Except String Regex :=
  let cs := pattern.toList
  match parseAlt syn (2 * cs.length + 4) 0 cs 0 with
  | .ok (r, [], _) => .ok r
  | .ok (_, _, _) => .error "Unmatched ) or \\)"
  | .error e => .error e

/-- Basic syntax, read leniently. -/
def basicSyntax : RegexSyntax := { extended := false, strict := false, lookahead := false }

/-- Reads a basic regular expression, or `none` when it is malformed. -/
def parse (pattern : String) : Option Regex :=
  (parseWith basicSyntax pattern).toOption

/-- The number of groups of an expression. -/
def groupCount : Regex → Nat
  | .seq a b => a.groupCount + b.groupCount
  | .alt a b => a.groupCount + b.groupCount
  | .repeat r _ _ => r.groupCount
  | .group _ r => r.groupCount + 1
  | .ahead _ r => r.groupCount
  | _ => 0

/-- The expression that matches a text as it is. -/
def literal (s : String) : Regex :=
  s.toList.foldr (fun c r => .seq (.char c) r) .empty

/-- The same expression matching letters of either case. -/
def ignoringCase : Regex → Regex
  | .char c =>
    let lo := c.toLower
    let up := c.toUpper
    if lo == up then .char c else .set false [(lo, lo), (up, up)]
  | .set neg ranges =>
    let extra := ranges.flatMap fun (a, b) =>
      let lower := if a ≤ 'z' && b ≥ 'a' then
        [(Char.ofNat (max a.toNat 97 - 32), Char.ofNat (min b.toNat 122 - 32))] else []
      let upper := if a ≤ 'Z' && b ≥ 'A' then
        [(Char.ofNat (max a.toNat 65 + 32), Char.ofNat (min b.toNat 90 + 32))] else []
      lower ++ upper
    .set neg (ranges ++ extra)
  | .seq a b => .seq a.ignoringCase b.ignoringCase
  | .alt a b => .alt a.ignoringCase b.ignoringCase
  | .repeat r lo hi => .repeat r.ignoringCase lo hi
  | .group i r => .group i r.ignoringCase
  | .ahead neg r => .ahead neg r.ignoringCase
  | r => r

/-- The captured span of a group. -/
def captured (caps : Captures) (i : Nat) : Option (Nat × Nat) :=
  (caps.find? (·.1 == i)).map (·.2)

/-- Whether the character at a place is a word character. -/
def wordAt (input : Array Char) (p : Nat) : Bool :=
  match input[p]? with
  | some c => c.isAlphanum || c == '_'
  | none => false

mutual

/-- Every way `r` matches `input` from `p`, as the place it ends and the captures then, in the
order of preference. -/
def ends (input : Array Char) : Nat → Regex → Nat → Captures → List (Nat × Captures)
  | 0, _, _, _ => []
  | _ + 1, .empty, p, caps => [(p, caps)]
  | _ + 1, .char c, p, caps => if input[p]? == some c then [(p + 1, caps)] else []
  | _ + 1, .any, p, caps => if p < input.size then [(p + 1, caps)] else []
  | _ + 1, .set neg ranges, p, caps =>
    match input[p]? with
    | some c =>
      if (ranges.any fun (lo, hi) => lo ≤ c && c ≤ hi) != neg then [(p + 1, caps)] else []
    | none => []
  | _ + 1, .lineStart, p, caps => if p == 0 then [(p, caps)] else []
  | _ + 1, .lineEnd, p, caps => if p == input.size then [(p, caps)] else []
  | _ + 1, .wordBoundary inside, p, caps =>
    let before := p > 0 && wordAt input (p - 1)
    let after := wordAt input p
    if (before != after) != inside then [(p, caps)] else []
  | _ + 1, .wordEdge atStart, p, caps =>
    let before := p > 0 && wordAt input (p - 1)
    let after := wordAt input p
    if (if atStart then !before && after else before && !after) then [(p, caps)] else []
  | fuel + 1, .seq a b, p, caps =>
    (ends input fuel a p caps).flatMap fun (q, caps) => ends input fuel b q caps
  | fuel + 1, .alt a b, p, caps => ends input fuel a p caps ++ ends input fuel b p caps
  | fuel + 1, .repeat r lo hi, p, caps => repeatEnds input fuel r lo hi 0 p caps
  | fuel + 1, .group i r, p, caps =>
    (ends input fuel r p caps).map fun (q, caps) => (q, (i, p, q) :: caps.filter (·.1 != i))
  | _ + 1, .backref i, p, caps =>
    match captured caps i with
    | some (s, e) =>
      let piece := (input.toList.drop s).take (e - s)
      if (input.toList.drop p).take piece.length == piece then [(p + piece.length, caps)] else []
    | none => []
  | fuel + 1, .ahead neg r, p, caps =>
    if (ends input fuel r p caps).isEmpty == neg then [(p, caps)] else []

/-- The ways to match `r` repeated between `lo` and `hi` times when `k` repeats are done,
more repeats first. A repeat beyond the least must consume something. -/
def repeatEnds (input : Array Char) : Nat → Regex → Nat → Option Nat → Nat → Nat → Captures →
    List (Nat × Captures)
  | 0, _, _, _, _, _, _ => []
  | fuel + 1, r, lo, hi, k, p, caps =>
    let canMore : Bool := match hi with
      | some h => decide (k < h)
      | none => true
    let more :=
      if canMore then
        ((ends input fuel r p caps).filter fun (q, _) => q > p || k < lo).flatMap fun (q, caps) =>
          repeatEnds input fuel r lo hi (k + 1) q caps
      else []
    more ++ (if k ≥ lo then [(p, caps)] else [])

end

/-- Every way a match of `r` starting at `s` can end, with its captures, in the order of
preference. -/
def matchesAt (r : Regex) (input : Array Char) (s : Nat) : List (Nat × Captures) :=
  ends input ((r.size + 2) * (input.size + 2)) r s []

/-- The longest match of `r` starting at `s`, if any: where it ends and its captures. Of
several equally long, the first in the order of preference. -/
def longestAt (r : Regex) (input : Array Char) (s : Nat) : Option (Nat × Captures) :=
  (r.matchesAt input s).foldl (fun best (e, caps) =>
    match best with
    | some (b, _) => if e > b then some (e, caps) else best
    | none => some (e, caps)) none

/-- The first match of `r` in `input` that starts at `start` or later: where it starts, where
it ends, and its captures. Positions count from the start of `input`, so that `^` still
anchors at its very start. -/
def searchFrom (r : Regex) (input : Array Char) (start : Nat) : Option (Nat × Nat × Captures) :=
  (List.range' start (input.size + 1 - start)).findSome? fun s =>
    (r.longestAt input s).map fun (e, caps) => (s, e, caps)

/-- The first match of `r` in `text`: where it starts, where it ends, and its captures. -/
def search (r : Regex) (text : String) : Option (Nat × Nat × Captures) :=
  r.searchFrom text.toList.toArray 0

/-- Whether `r` matches somewhere in `text`. -/
def found (r : Regex) (text : String) : Bool :=
  (r.search text).isSome

end Regex

end Regress
