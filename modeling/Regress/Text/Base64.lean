/-!
# Base64

The standard alphabet, with `=` padding to a whole number of four-character groups. Line
breaks in the text are ignored, anything else outside the alphabet is refused, and nothing may
follow the padding. Bits left over in the last character are dropped.
-/

namespace Regress.Base64

/-- The six bits a character of the alphabet stands for. -/
def sextet (c : Char) : Option Nat :=
  if 'A' ≤ c && c ≤ 'Z' then some (c.toNat - 'A'.toNat)
  else if 'a' ≤ c && c ≤ 'z' then some (c.toNat - 'a'.toNat + 26)
  else if '0' ≤ c && c ≤ '9' then some (c.toNat - '0'.toNat + 52)
  else if c == '+' then some 62
  else if c == '/' then some 63
  else none

/-- The octets of one group of four characters, the last of which may be padding. -/
def group : List Char → Option (List UInt8)
  | [a, b, '=', '='] => do
    let a ← sextet a
    let b ← sextet b
    pure [(a * 4 + b / 16).toUInt8]
  | [a, b, c, '='] => do
    let a ← sextet a
    let b ← sextet b
    let c ← sextet c
    pure [(a * 4 + b / 16).toUInt8, ((b % 16) * 16 + c / 4).toUInt8]
  | [a, b, c, d] => do
    let a ← sextet a
    let b ← sextet b
    let c ← sextet c
    let d ← sextet d
    pure [(a * 4 + b / 16).toUInt8, ((b % 16) * 16 + c / 4).toUInt8, ((c % 4) * 64 + d).toUInt8]
  | _ => none

/-- Decodes groups of four; only the last group may hold padding. -/
def groups : List Char → Option (List UInt8)
  | a :: b :: c :: d :: rest =>
    if !rest.isEmpty && (c == '=' || d == '=') then none
    else do
      let g ← group [a, b, c, d]
      let r ← groups rest
      pure (g ++ r)
  | [] => some []
  | _ => none

/-- The octets a base64 text stands for, or `none` when it is not base64. -/
def decode (text : String) : Option (List UInt8) :=
  groups (text.toList.filter fun c => c != '\r' && c != '\n')

end Regress.Base64
