/-!
# Permission bits

The twelve permission bits of a file as `chmod` changes them and `ls -l` writes them: read,
write and execute for the owner, the group and others (`0777`), and the set-user, set-group and
sticky bits (`07000`).

* **Octal modes.** Digits from `0` to `7`, at most `07777`, set the bits outright; on a
  directory, a mode of fewer than five digits keeps the set-user and set-group bits it does not
  name.
* **Symbolic modes.** Clauses separated by commas: whom they are for (`u`, `g`, `o`, `a`), then
  one or more operations `+`, `-` or `=`, each with the permissions `r`, `w`, `x`, `X`, `s`, `t`
  or the bits of `u`, `g` or `o` to copy. `X` is execute permission for a directory, or a file
  someone may execute already. A clause for no one in particular acts on all but the bits of the
  mask; `=` for someone leaves the bits of the others as they were.
* **Text.** A mode is written as nine letters `rwxrwxrwx`, a `-` for each bit that is not set;
  the set-user, set-group and sticky bits show as `s`, `s` and `t` in the places of the three
  execute bits, or `S`, `S` and `T` where those are not set.
-/

namespace Regress.Shell

/-- How an operation of a symbolic mode finds its bits: as written, copied from the bits the file
has for `u`, `g` or `o`, or as written with execute permission added when `X` applies. -/
inductive ModeSource where
  | ordinary
  | copied
  | executeIfAny
  deriving Repr, DecidableEq, Inhabited

/-- One operation of a mode: `+`, `-` or `=`, the bits of those it is for (none when for no one
in particular), the bits it names and how they are found, and the bits it mentions. -/
structure ModeChange where
  op : Char
  affected : Nat
  value : Nat
  source : ModeSource
  mentioned : Nat
  deriving Repr, Inhabited

/-- All twelve bits. -/
def allModeBits : Nat := 0o7777

/-- The bits of the positions of `bits` within `all`, as the complement of `bits` there. -/
def withoutBits (all bits : Nat) : Nat :=
  Nat.land all (Nat.xor all (Nat.land all bits))

/-- The bits of the person letters `u`, `g`, `o` and `a`. -/
def whoBits (c : Char) : Nat :=
  if c == 'u' then 0o4700 else if c == 'g' then 0o2070 else if c == 'o' then 0o1007 else allModeBits

/-- The bits of the permission letters `r`, `w`, `x`, `s` and `t`. -/
def permissionBits (c : Char) : Nat :=
  if c == 'r' then 0o444 else if c == 'w' then 0o222 else if c == 'x' then 0o111
  else if c == 's' then 0o6000 else if c == 't' then 0o1000 else 0

/-- Reads the operations of one clause after whom it is for: the operations and the rest. -/
def readOperations (affected : Nat) : Nat → List Char → List ModeChange × List Char
  | 0, cs => ([], cs)
  | fuel + 1, cs =>
    match cs with
    | op :: rest =>
      if op != '+' && op != '-' && op != '=' then ([], cs)
      else
        let (value, source, rest) : Nat × ModeSource × List Char :=
          match rest with
          | 'u' :: more => (0o700, .copied, more)
          | 'g' :: more => (0o070, .copied, more)
          | 'o' :: more => (0o007, .copied, more)
          | _ =>
            let letters := rest.takeWhile fun c => "rwxXst".toList.contains c
            let value := letters.foldl (fun v c => Nat.lor v (permissionBits c)) 0
            (value, if letters.contains 'X' then .executeIfAny else .ordinary, rest.drop letters.length)
        let change : ModeChange :=
          { op, affected, value, source
            mentioned := if affected == 0 then value else Nat.land affected value }
        let (more, rest) := readOperations affected fuel rest
        (change :: more, rest)
    | [] => ([], [])

/-- Reads the clauses of a symbolic mode, each after the comma that ends the one before. -/
def readClauses : Nat → List Char → Option (List ModeChange)
  | 0, _ => none
  | fuel + 1, cs =>
    let who := cs.takeWhile fun c => c == 'u' || c == 'g' || c == 'o' || c == 'a'
    let affected := who.foldl (fun v c => Nat.lor v (whoBits c)) 0
    let (changes, rest) := readOperations affected (cs.length + 1) (cs.drop who.length)
    if changes.isEmpty then none
    else
      match rest with
      | [] => some changes
      | ',' :: more => (readClauses fuel more).map (changes ++ ·)
      | _ => none

/-- Reads a mode of `chmod`, octal or symbolic, or `none` when it is not one. -/
def readMode (s : String) : Option (List ModeChange) :=
  let cs := s.toList
  if !cs.isEmpty && cs.all (fun c => '0' ≤ c && c ≤ '7') then
    let value := cs.foldl (fun v c => 8 * v + (c.toNat - 48)) 0
    if value > allModeBits then none
    else
      let mentioned := if cs.length < 5 then Nat.lor (Nat.land value 0o6000) 0o1777 else allModeBits
      some [{ op := '=', affected := allModeBits, value, source := .ordinary, mentioned }]
  else if !cs.isEmpty && cs.head?.any Char.isDigit then none
  else readClauses (cs.length + 1) cs

/-- The bits of a file after a mode's operations, from the bits `old`; whether it is a directory
matters to `X` and to the bits an octal mode keeps, and `mask` to operations for no one in
particular. -/
def applyMode (changes : List ModeChange) (old : Nat) (dir : Bool) (mask : Nat) : Nat :=
  changes.foldl (fun mode ch =>
    let omitted := if dir then withoutBits 0o6000 ch.mentioned else 0
    let value := match ch.source with
      | .ordinary => ch.value
      | .copied =>
        let v := Nat.land ch.value mode
        Nat.lor v (Nat.lor (if Nat.land v 0o444 != 0 then 0o444 else 0)
          (Nat.lor (if Nat.land v 0o222 != 0 then 0o222 else 0)
            (if Nat.land v 0o111 != 0 then 0o111 else 0)))
      | .executeIfAny =>
        if Nat.land mode 0o111 != 0 || dir then Nat.lor ch.value 0o111 else ch.value
    let scope := if ch.affected != 0 then ch.affected else withoutBits allModeBits mask
    let value := Nat.land (Nat.land value scope) (withoutBits allModeBits omitted)
    if ch.op == '=' then
      let preserved := Nat.lor (if ch.affected != 0 then withoutBits allModeBits ch.affected else 0) omitted
      Nat.lor (Nat.land mode preserved) value
    else if ch.op == '+' then Nat.lor mode value
    else Nat.land mode (withoutBits allModeBits value)) (Nat.land old allModeBits)

/-- The nine letters of a mode, as `ls -l` writes them after the letter of the file's kind. -/
def modeLetters (m : Nat) : String :=
  let bit (b : Nat) : Bool := Nat.land m b != 0
  let triple (r w x special : Nat) (setLetter : Char) : String :=
    String.ofList [if bit r then 'r' else '-', if bit w then 'w' else '-',
      if bit special then (if bit x then setLetter else setLetter.toUpper)
      else if bit x then 'x' else '-']
  triple 0o400 0o200 0o100 0o4000 's' ++ triple 0o040 0o020 0o010 0o2000 's' ++
    triple 0o004 0o002 0o001 0o1000 't'

/-- A mode in octal with at least four digits, as `chmod -v` writes it. -/
def octalMode (m : Nat) : String :=
  let ds := Nat.toDigits 8 m
  String.ofList (List.replicate (4 - ds.length) '0' ++ ds)

end Regress.Shell
