/-!
# UTF-8 octets

A text of the program is a sequence of octets, most often well-formed UTF-8 but not always:
a file a tool wrote, or the octets of `!!binary` YAML, may hold anything. Such a text is kept
as a `String` in which each well-formed character is itself and each octet that starts no
well-formed character is a stand-in character of its own (`rawChar`), one of the last 128 code
points, `U+10FF80` to `U+10FFFF`, which the program's inputs never hold. `octets` and `decode`
turn a text into its octets and back without loss, and `valid` writes the text as it is shown
in JSON, each stand-in as the replacement character U+FFFD.

`decodeHead` reads one character by the rules of RFC 3629 §4; an octet that starts no
well-formed character reads as U+FFFD and is one octet wide, so every step consumes at least
one octet.

A shell sees octets, not characters. Its texts are *octet texts*: one character, below 256,
for each octet (`toOctetText`, `ofOctetText`).
-/

namespace Regress.Utf8

/-- The character that stands for an octet that starts no well-formed character. -/
def rawChar (b : UInt8) : Char :=
  Char.ofNat (0x10FF00 + b.toNat)

/-- The octet a character stands for, if it is a stand-in. -/
def rawOctet? (c : Char) : Option UInt8 :=
  if 0x10FF80 ≤ c.toNat then some (UInt8.ofNat (c.toNat - 0x10FF00)) else none

/-- Whether a character stands for an octet. -/
def isRaw (c : Char) : Bool :=
  0x10FF80 ≤ c.toNat

/-- Whether a text holds a stand-in. -/
def hasRaw (s : String) : Bool :=
  s.toList.any isRaw

/-- The octets of a text, in order: each character's UTF-8 octets, or the octet it stands
for. -/
def octets (s : String) : List UInt8 :=
  if hasRaw s then
    s.toList.flatMap fun c =>
      match rawOctet? c with
      | some b => [b]
      | none => String.utf8EncodeChar c
  else s.toList.flatMap String.utf8EncodeChar

/-- The number of octets of a text. -/
def byteSize (s : String) : Nat :=
  if hasRaw s then (octets s).length else s.utf8ByteSize

/-- The character read when the octets start no well-formed character. -/
def replacement : Char :=
  '�'

/-- A text as JSON shows it: each stand-in is the replacement character. -/
def valid (s : String) : String :=
  if hasRaw s then s.map fun c => if isRaw c then replacement else c else s

/-- For an octet that leads a character of two to four octets: the number of continuation
octets it announces, the range the first of them must lie in, and the lead's payload bits. -/
def lead (b : UInt8) : Option (Nat × UInt8 × UInt8 × Nat) :=
  if 0xC2 ≤ b ∧ b ≤ 0xDF then some (1, 0x80, 0xBF, b.toNat - 0xC0)
  else if b = 0xE0 then some (2, 0xA0, 0xBF, 0)
  else if 0xE1 ≤ b ∧ b ≤ 0xEC then some (2, 0x80, 0xBF, b.toNat - 0xE0)
  else if b = 0xED then some (2, 0x80, 0x9F, 0xD)
  else if 0xEE ≤ b ∧ b ≤ 0xEF then some (2, 0x80, 0xBF, b.toNat - 0xE0)
  else if b = 0xF0 then some (3, 0x90, 0xBF, 0)
  else if 0xF1 ≤ b ∧ b ≤ 0xF3 then some (3, 0x80, 0xBF, b.toNat - 0xF0)
  else if b = 0xF4 then some (3, 0x80, 0x8F, 4)
  else none

/-- Reads `k` continuation octets onto the code point `v`, the first within `lo ..= hi` and the
others within `%x80-BF`. -/
def continuation : Nat → UInt8 → UInt8 → Nat → List UInt8 → Option Nat
  | 0, _, _, v, _ => some v
  | k + 1, lo, hi, v, c :: r =>
    if lo ≤ c ∧ c ≤ hi then continuation k 0x80 0xBF (v * 64 + (c.toNat - 0x80)) r else none
  | _ + 1, _, _, _, [] => none

/-- Reads one character off the front of an octet sequence: the character and the octets after
it. A sequence that starts no well-formed character gives `bad` of its first octet and drops
that octet. -/
def readChar (bad : UInt8 → Char) : List UInt8 → Char × List UInt8
  | [] => (replacement, [])
  | b :: rest =>
    if b < 0x80 then (Char.ofNat b.toNat, rest)
    else
      match lead b with
      | none => (bad b, rest)
      | some (k, lo, hi, v) =>
        match continuation k lo hi v rest with
        | some n => (Char.ofNat n, rest.drop k)
        | none => (bad b, rest)

/-- Reading a character never lengthens what is left. -/
theorem readChar_length_le (bad : UInt8 → Char) (b : UInt8) (rest : List UInt8) :
    (readChar bad (b :: rest)).2.length ≤ rest.length := by
  simp only [readChar]
  split
  · simp
  · split
    · simp
    · split <;> simp

/-- Reads one character off the front of an octet sequence: the character and the octets after
it. A sequence that starts no well-formed character gives U+FFFD and drops one octet. -/
def decodeHead (bs : List UInt8) : Char × List UInt8 :=
  readChar (fun _ => replacement) bs

/-- Reading a character never lengthens what is left. -/
theorem decodeHead_length_le (b : UInt8) (rest : List UInt8) :
    (decodeHead (b :: rest)).2.length ≤ rest.length :=
  readChar_length_le _ b rest

/-- The octets of one character. -/
def ofChar (c : Char) : List UInt8 :=
  octets (String.singleton c)

/-- The text of a sequence of octets, each octet that starts no well-formed character kept as
its stand-in. -/
def decode (bs : List UInt8) : String :=
  if bs.all (· < 0x80) then String.ofList (bs.map fun b => Char.ofNat b.toNat)
  else go bs.length bs ""
where
  /-- Reads characters while octets remain; `fuel` is the number of octets, and every read
  consumes at least one. -/
  go : Nat → List UInt8 → String → String
    | 0, _, acc => acc
    | _, [], acc => acc
    | fuel + 1, bs, acc =>
      let (c, rest) := readChar rawChar bs
      go fuel rest (acc.push c)

/-- Whether a text comes before another, or equals it, octet by octet. -/
def octetsLE (a b : String) : Bool :=
  if hasRaw a || hasRaw b then go (octets a) (octets b) else decide (a ≤ b)
where
  /-- Compares two octet sequences from the front. -/
  go : List UInt8 → List UInt8 → Bool
    | [], _ => true
    | _ :: _, [] => false
    | x :: xs, y :: ys => if x < y then true else if y < x then false else go xs ys

/-- The octets of an octet text. -/
def octetsOfText (s : String) : List UInt8 :=
  s.toList.map fun c => UInt8.ofNat c.toNat

/-- The octet text of a sequence of octets. -/
def textOfOctets (bs : List UInt8) : String :=
  String.ofList (bs.map fun b => Char.ofNat b.toNat)

/-- A text as a shell sees it: one character for each of its octets. -/
def toOctetText (s : String) : String :=
  if s.all (fun (c : Char) => c.toNat < 0x80) then s else textOfOctets (octets s)

/-- The text an octet text stands for. -/
def ofOctetText (s : String) : String :=
  if s.all (fun (c : Char) => c.toNat < 0x80) then s else decode (octetsOfText s)

end Regress.Utf8
