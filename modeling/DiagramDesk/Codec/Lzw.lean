import DiagramDesk.Codec.Bits

/-! Numbers coded by a dictionary that grows while they are read: each code is a number, a row of
numbers that came before with one more behind it, or one of the two orders to start anew and to
end. Codes get wider as the dictionary grows. -/
namespace DiagramDesk.Lzw

/-- Which bit of a code comes first. With the highest one first, codes get wider a code earlier. -/
inductive Order where
  | low | high
  deriving DecidableEq, Repr

def Order.bits : Order → List UInt8 → List Bool
  | low => Bits.ofBytes
  | high => Bits.ofBytesHigh

def Order.read? : Order → Nat → List Bool → Option (Nat × List Bool)
  | low => Bits.read?
  | high => Bits.readHigh?

/-- How many codes earlier than needed codes get wider. -/
def Order.lead : Order → Nat
  | low => 0
  | high => 1

def widest : Nat := 12

/-- What reading knows between two codes. Rows are kept from their end to their start. -/
structure State where
  order : Order
  /-- The width of the plain numbers. -/
  base : Nat
  width : Nat
  entries : Array (List Nat)
  last : Option (List Nat)
  deriving Repr

def State.fresh (order : Order) (base : Nat) : State where
  order := order
  base := base
  width := base + 1
  entries := ((List.range (1 <<< base)).map fun n => [n]).toArray ++ #[[], []]
  last := none

def extend (row other : List Nat) : List Nat := other.getLast?.toList ++ row

/-- The row that a code stands for. The code that comes next in the dictionary is the last row with
its own first number behind it. -/
def State.row? (s : State) (code : Nat) : Option (List Nat) :=
  if code = s.entries.size then s.last.map fun l => extend l l else s.entries[code]?

/-- The dictionary after a row, and the width of the next code. -/
def State.grow (s : State) (row : List Nat) : State :=
  let entries := match s.last with
    | some last =>
      if s.entries.size < 1 <<< widest then s.entries.push (extend last row) else s.entries
    | none => s.entries
  let isFull := entries.size + s.order.lead == 1 <<< s.width && s.width < widest
  { s with entries := entries, last := some row, width := if isFull then s.width + 1 else s.width }

/-- Reads numbers until there are as many as are wanted; the second number bounds how many codes
are looked at. -/
def read? (wanted : Nat) : Nat → State → List Bool → Option (List Nat)
  | 0, _, _ => none
  | fuel + 1, s, bits => do
    let (code, bits) ← s.order.read? s.width bits
    if code = 1 <<< s.base then read? wanted fuel (.fresh s.order s.base) bits
    else if code = 1 <<< s.base + 1 then none
    else
      let row ← s.row? code
      if wanted ≤ row.length then return row.reverse.take wanted
      else
        let more ← read? (wanted - row.length) fuel (s.grow row) bits
        return row.reverse ++ more

def decode? (order : Order) (base wanted : Nat) (bytes : List UInt8) : Option (List Nat) :=
  let bits := order.bits bytes
  read? wanted (bits.length + 1) (.fresh order base) bits

end DiagramDesk.Lzw
