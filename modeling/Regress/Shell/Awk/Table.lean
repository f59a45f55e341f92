import Regress.Shell.Awk.Value

/-!
# The arrays of awk

An array maps keys to values. A key is looked up as a whole number when it is a number that is
a whole number below `2^63` in size, and as a text otherwise. The table keeps the order its
keys come out in by `for (key in array)`, so it is the hash table awk keeps, step for step:

* Two lists of chains, one by the hash of a key's text (FNV-1a, 32 bits) and one by a whole
  number key's low bits, over `mask + 1` slots, 64 at first. A cell is in the text chains once
  it has a text key, and in the number chains once it has a number key.
* A lookup that finds a cell moves it to the front of its chain. A new cell goes to the front.
* When the cells outnumber twelve per slot, the slots double: each chain splits into the cells
  that stay, in order, and those that move to the new half, in order.
* Number keys get their text when a text lookup or a loop needs one: the number chains are
  walked slot by slot and each cell is pushed onto its text chain.
* `split` makes a plain list of values under the keys `1` to `n`. Any other key turns it into
  the table, with cell `i` at the front of number slot `i mod (mask + 1)` in order.
* A loop visits the keys slot by slot of the text chains, each chain front first.
-/

namespace Regress.Awk

/-- A key as the table looks it up: a whole number or a text. -/
inductive Key where
  | int (i : Int)
  | text (s : String)
  deriving Inhabited

/-- The FNV-1a hash of a text's bytes, 32 bits. -/
def fnvHash (s : String) : Nat :=
  s.toList.foldl (fun h c => ((h ^^^ c.toNat) * 16777619) % 4294967296) 2166136261

/-- A cell of the table: its text key and hash once it has them, its number key once it has
one, and its value. -/
structure Cell where
  text : Option String := none
  hash : Nat := 0
  index : Option Int := none
  value : Value := .uninit
  deriving Inhabited

/-- Where a value is: in the list `split` made, or in a cell. -/
inductive Slot where
  | listed (i : Nat)
  | cell (id : Nat)
  deriving Inhabited

/-- An array. Cells are kept in `cells` and named by their place there; the chains hold
those places. -/
structure Table where
  cells : Array Cell := #[]
  textChains : Array (List Nat) := Array.replicate 64 []
  intChains : Array (List Nat) := Array.replicate 64 []
  mask : Nat := 63
  size : Nat := 0
  hasTexts : Bool := false
  hasInts : Bool := false
  listed : Option (Array Value) := none
  deriving Inhabited

namespace Table

/-- The most cells before the slots double. -/
def limit (t : Table) : Nat := (t.mask + 1) * 12

/-- The slot of a number key. -/
def intSlot (mask : Nat) (i : Int) : Nat := (i % ((mask + 1 : Nat) : Int)).toNat

/-- The cell at a place. -/
def cell (t : Table) (id : Nat) : Cell := t.cells.getD id default

/-- Splits each chain of the first `half` slots into the cells that stay and those that move
to the slot `half` further on. -/
def splitChains (chains : Array (List Nat)) (half : Nat) (slotOf : Nat → Nat) : Array (List Nat) :=
  let grown := chains ++ Array.replicate half []
  (List.range half).foldl (fun acc i =>
    let chain := acc.getD i []
    let stay := chain.filter fun id => slotOf id == i
    let move := chain.filter fun id => slotOf id != i
    (acc.set! i stay).set! (i + half) move) grown

/-- Doubles the slots. -/
def double (t : Table) : Table :=
  let half := t.mask + 1
  let mask := 2 * t.mask + 1
  let textChains :=
    if t.hasTexts then splitChains t.textChains half fun id => (t.cell id).hash % (mask + 1)
    else t.textChains ++ Array.replicate half []
  let intChains :=
    if t.hasInts then
      splitChains t.intChains half fun id => match (t.cell id).index with
        | some i => intSlot mask i
        | none => 0
    else t.intChains ++ Array.replicate half []
  { t with textChains, intChains, mask }

/-- Pushes a place onto the front of a chain. -/
def pushFront (chains : Array (List Nat)) (slot id : Nat) : Array (List Nat) :=
  chains.set! slot (id :: chains.getD slot [])

/-- Moves a place to the front of its chain. -/
def toFront (chains : Array (List Nat)) (slot id : Nat) : Array (List Nat) :=
  chains.set! slot (id :: (chains.getD slot []).filter (· != id))

/-- The smallest mask with room for `n` cells, from 63. -/
def maskFor (n : Nat) : Nat :=
  let rec grow : Nat → Nat → Nat
    | 0, m => m
    | fuel + 1, m => if n > (m + 1) * 12 then grow fuel (2 * m + 1) else m
  grow 64 63

/-- Turns the list `split` made into the table. -/
def unlist (t : Table) : Table :=
  match t.listed with
  | none => t
  | some values =>
    let mask := maskFor values.size
    let start : Table := { mask, size := values.size, hasInts := true
                           textChains := Array.replicate (mask + 1) []
                           intChains := Array.replicate (mask + 1) [] }
    (List.range values.size).foldl (fun acc k =>
      let id := acc.cells.size
      let slot := (k + 1) % (mask + 1)
      { acc with cells := acc.cells.push { index := some ((k + 1 : Nat) : Int), value := values.getD k .uninit }
                 intChains := pushFront acc.intChains slot id }) start

/-- Gives every cell with a number key its text, walking the number chains slot by slot. -/
def addTexts (t : Table) : Table :=
  let t := t.unlist
  let chains := (List.range (t.mask + 1)).flatMap fun i => t.intChains.getD i []
  let t := chains.foldl (fun acc id =>
    let c := acc.cell id
    match c.index with
    | some i =>
      let text := toString i
      let hash := fnvHash text
      { acc with cells := acc.cells.set! id { c with text := some text, hash }
                 textChains := pushFront acc.textChains (hash % (acc.mask + 1)) id }
    | none => acc) t
  { t with hasTexts := true }

/-- Adds a new cell, doubling the slots when there are too many: the table and its place. -/
def addCell (t : Table) (c : Cell) : Table × Nat :=
  let id := t.cells.size
  let t := { t with cells := t.cells.push c, size := t.size + 1 }
  ((if t.size > t.limit then t.double else t), id)

/-- Finds a text key, adding it when `create`. -/
def findText (t : Table) (key : String) (create : Bool) : Table × Option Nat :=
  let t := if t.hasTexts then t else t.addTexts
  let hash := fnvHash key
  let slot := hash % (t.mask + 1)
  match (t.textChains.getD slot []).find? fun id => (t.cell id).hash == hash && (t.cell id).text == some key with
  | some id => ({ t with textChains := toFront t.textChains slot id }, some id)
  | none =>
    if !create then (t, none)
    else
      let (t, id) := t.addCell { text := some key, hash }
      ({ t with textChains := pushFront t.textChains (hash % (t.mask + 1)) id }, some id)

/-- Finds a number key, adding it when `create`. -/
def findInt (t : Table) (i : Int) (create : Bool) : Table × Option Slot :=
  match t.listed with
  | some values =>
    if 1 ≤ i && i ≤ values.size then (t, some (.listed (i.toNat - 1)))
    else findIntCells t.unlist
  | none => findIntCells t
where
  /-- The lookup in the chains. -/
  findIntCells (t : Table) : Table × Option Slot :=
    let slot := intSlot t.mask i
    match (t.intChains.getD slot []).find? fun id => (t.cell id).index == some i with
    | some id => ({ t with intChains := toFront t.intChains slot id }, some (.cell id))
    | none =>
      let found : Table × Option Nat :=
        if t.hasTexts then findText t (toString i) create
        else if create then (fun (t, id) => (t, some id)) (t.addCell {})
        else (t, none)
      match found with
      | (t, some id) =>
        let c := t.cell id
        ({ t with cells := t.cells.set! id { c with index := some i }, hasInts := true
                  intChains := pushFront t.intChains (intSlot t.mask i) id }, some (.cell id))
      | (t, none) => (t, none)

/-- The number of keys. -/
def count (t : Table) : Nat :=
  match t.listed with
  | some values => values.size
  | none => t.size

/-- Finds a key, adding it when `create`. -/
def find (t : Table) (key : Key) (create : Bool) : Table × Option Slot :=
  if t.count == 0 && !create then (t, none)
  else match key with
    | .int i => t.findInt i create
    | .text s =>
      let t := t.unlist
      match t.findText s create with
      | (t, some id) => (t, some (.cell id))
      | (t, none) => (t, none)

/-- The value at a place. -/
def valueAt (t : Table) : Slot → Value
  | .listed i => (t.listed.getD #[]).getD i .uninit
  | .cell id => (t.cell id).value

/-- Sets the value at a place. -/
def setAt (t : Table) (slot : Slot) (v : Value) : Table :=
  match slot with
  | .listed i => { t with listed := t.listed.map (·.set! i v) }
  | .cell id => { t with cells := t.cells.set! id { t.cell id with value := v } }

/-- The value of a key, adding it unset when it is not there. -/
def get (t : Table) (key : Key) : Table × Value :=
  match t.find key true with
  | (t, some slot) => (t, t.valueAt slot)
  | (t, none) => (t, .uninit)

/-- Sets the value of a key. -/
def set (t : Table) (key : Key) (v : Value) : Table :=
  match t.find key true with
  | (t, some slot) => t.setAt slot v
  | (t, none) => t

/-- Whether a key is there. -/
def contains (t : Table) (key : Key) : Table × Bool :=
  match t.find key false with
  | (t, some _) => (t, true)
  | (t, none) => (t, false)

/-- Removes a key. The table starts afresh when its last cell goes. -/
def remove (t : Table) (key : Key) : Table :=
  let t := match key, t.listed with
    | .int i, some values => if 1 ≤ i && i ≤ values.size then t.unlist else t
    | _, _ => t
  if t.listed.isSome then t
  else match t.find key false with
    | (t, some (.cell id)) =>
      let c := t.cell id
      let textChains := match c.text with
        | some _ => t.textChains.modify (c.hash % (t.mask + 1)) (·.filter (· != id))
        | none => t.textChains
      let intChains := match c.index with
        | some i => t.intChains.modify (intSlot t.mask i) (·.filter (· != id))
        | none => t.intChains
      if t.size ≤ 1 then {}
      else { t with textChains, intChains, size := t.size - 1 }
    | (t, _) => t

/-- The keys in the order a loop visits them; every key gets its text on the way. -/
def keys (t : Table) : Table × List String :=
  if t.count == 0 then (t, [])
  else
    let t := if t.hasTexts && t.listed.isNone then t else t.addTexts
    (t, (List.range (t.mask + 1)).flatMap fun i =>
      (t.textChains.getD i []).filterMap fun id => (t.cell id).text)

/-- The list `split` makes. -/
def ofList (values : List Value) : Table :=
  if values.isEmpty then {} else { listed := some values.toArray }

end Table

end Regress.Awk
