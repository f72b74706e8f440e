import DiagramDesk.Picture.Jpeg.Waves
import DiagramDesk.Picture.Jpeg.Words

/-! Scans: runs of bits that tell the amounts of waves, all at once or in several rounds. A round
tells the upper bits of some waves, or one more bit of each. -/
namespace DiagramDesk.Jpeg

/-- What a scan tells: from which wave to which, and down to which bit; whether the bits above it
are known already; and whether it is the only scan that does so. -/
structure Round where
  start : Nat
  stop : Nat
  bit : Nat
  isLater : Bool
  isOnly : Bool
  deriving DecidableEq, Repr

/-- The places of the waves that a scan tells, without the wave that does not move. -/
def Round.places (r : Round) : List Nat :=
  (waveOrder.drop (max 1 r.start)).take (r.stop + 1 - max 1 r.start)

/-- What reading knows between two blocks: the bits that are left, the last amount of the wave that
does not move for each component, and how many blocks are over before they begin. -/
structure Progress where
  bits : List Bool
  last : Array Int
  idle : Nat := 0

def put (block : Amounts) (place : Nat) (n : Int) : Amounts := block.setIfInBounds place n

def readStill? (code : WordCode) (r : Round) (component : Nat) (block : Amounts) (p : Progress) :
    Option (Amounts × Progress) := do
  let (size, bits) ← code.read? p.bits
  let (difference, bits) := nextSigned size bits
  let amount := p.last[component]?.getD 0 + difference
  return (put block 0 (amount * (1 <<< r.bit : Nat)),
    { p with bits := bits, last := p.last.setIfInBounds component amount })

def sharpenStill (r : Round) (block : Amounts) (p : Progress) : Amounts × Progress :=
  let (b, bits) := nextBit p.bits
  let more : Int := if b then (1 <<< r.bit : Nat) else 0
  (put block 0 (block[0]?.getD 0 + more), { p with bits := bits })

/-- Reads the amounts of waves at some places. The number bounds how many words are read. -/
def readMoving? (code : WordCode) (bit : Nat) :
    Nat → List Nat → Amounts → Progress → Option (Amounts × Progress)
  | 0, _, block, p | _, [], block, p => some (block, p)
  | fuel + 1, places, block, p => do
    let (word, bits) ← code.read? p.bits
    let skip := word / 16
    let size := word % 16
    if size = 0 then
      if skip = 15 then readMoving? code bit fuel (places.drop 16) block { p with bits := bits }
      else
        let (more, bits) := nextNumber skip bits
        return (block, { p with bits := bits, idle := 1 <<< skip + more - 1 })
    else
      let (amount, bits) := nextSigned size bits
      let block := match places.drop skip with
        | place :: _ => put block place (amount * (1 <<< bit : Nat))
        | [] => block
      readMoving? code bit fuel (places.drop (skip + 1)) block { p with bits := bits }

/-- One more bit of an amount that is not zero. -/
def sharpened (bit : Nat) (amount : Int) (b : Bool) : Int :=
  if !b then amount
  else if 0 < amount then amount + (1 <<< bit : Nat)
  else amount - (1 <<< bit : Nat)

/-- Reads one more bit of those amounts at some places that are not zero, past so many that are, and
sets the next one that is. What is left of the places follows. -/
def sharpenPast (bit : Nat) (amount : Int) :
    Nat → List Nat → Amounts → List Bool → List Nat × Amounts × List Bool
  | _, [], block, bits => ([], block, bits)
  | zeros, place :: places, block, bits =>
    let n := block[place]?.getD 0
    if n ≠ 0 then
      let (b, bits) := nextBit bits
      sharpenPast bit amount zeros places (put block place (sharpened bit n b)) bits
    else if zeros = 0 then (places, put block place amount, bits)
    else sharpenPast bit amount (zeros - 1) places block bits

def sharpenAll (bit : Nat) (places : List Nat) (block : Amounts) (p : Progress) :
    Amounts × Progress :=
  let (_, block, bits) := sharpenPast bit 0 places.length places block p.bits
  (block, { p with bits := bits })

/-- Reads one more bit of the amounts at some places, and those that have their first bit now. The
number bounds how many words are read. -/
def sharpenMoving? (code : WordCode) (bit : Nat) :
    Nat → List Nat → Amounts → Progress → Option (Amounts × Progress)
  | 0, _, block, p | _, [], block, p => some (block, p)
  | fuel + 1, places, block, p => do
    let (word, bits) ← code.read? p.bits
    let skip := word / 16
    if word % 16 = 0 ∧ skip < 15 then
      let (more, bits) := nextNumber skip bits
      return sharpenAll bit places block { p with bits := bits, idle := 1 <<< skip + more - 1 }
    else
      let (amount, bits) : Int × List Bool :=
        if word % 16 = 0 then (0, bits)
        else
          let (b, bits) := nextBit bits
          (if b then (1 <<< bit : Nat) else -(1 <<< bit : Nat), bits)
      let (places, block, bits) := sharpenPast bit amount skip places block bits
      sharpenMoving? code bit fuel places block { p with bits := bits }

structure Codes where
  still : Option WordCode
  moving : Option WordCode

def readBlock? (codes : Codes) (r : Round) (component : Nat) (block : Amounts) (p : Progress) :
    Option (Amounts × Progress) := do
  let (block, p) ← if 0 < r.start then some (block, p)
    else if r.isLater then some (sharpenStill r block p)
    else readStill? (← codes.still) r component block p
  if r.places.isEmpty then return (block, p)
  else if 0 < p.idle then
    let p := { p with idle := p.idle - 1 }
    return if r.isLater then sharpenAll r.bit r.places block p else (block, p)
  else
    let code ← codes.moving
    let (block, p) ← if r.isLater then sharpenMoving? code r.bit 64 r.places block p
      else readMoving? code r.bit 64 r.places block p
    return (block, if r.isOnly then { p with idle := 0 } else p)

end DiagramDesk.Jpeg
