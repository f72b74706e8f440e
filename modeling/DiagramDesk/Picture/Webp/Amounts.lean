import DiagramDesk.Picture.Webp.Chances
import DiagramDesk.Picture.Webp.ChanceTable

/-! Blocks of four by four levels as amounts of waves, how the amounts are read, and the levels that
they make. -/
namespace DiagramDesk.Webp

abbrev Amounts := Array Int

def still : Amounts := Array.replicate 16 0

/-! ### Reading -/

/-- What a block is about: brightness without its mean, means of brightness, color, or brightness. -/
inductive Kind where
  | moving | means | color | whole
  deriving DecidableEq, Repr

def Kind.index : Kind → Nat
  | moving => 0
  | means => 1
  | color => 2
  | whole => 3

def Kind.first : Kind → Nat
  | moving => 1
  | means | color | whole => 0

/-- The scales of the first amount and of the others. -/
structure Scales where
  first : Nat
  others : Nat
  deriving DecidableEq, Repr

def amountOrder : Array Nat := #[0, 1, 4, 8, 5, 2, 3, 6, 9, 12, 13, 10, 7, 11, 14, 15]

def bands : Array Nat := #[0, 1, 2, 3, 6, 4, 5, 6, 6, 6, 6, 6, 6, 6, 6, 7]

/-- Where the chances stand that belong to a kind, a place and a situation: how large the amount
before was, or how many of the blocks above and on the left tell anything. -/
def chancesAt (k : Kind) (place situation : Nat) : Nat :=
  ((k.index * 8 + bands[place]?.getD 0) * 3 + situation) * 11

def largeChances : Nat → List Nat
  | 0 => [173, 148, 140]
  | 1 => [176, 155, 140, 135]
  | 2 => [180, 157, 141, 134, 130]
  | _ => [254, 254, 243, 230, 196, 177, 153, 140, 133, 130, 129]

def readMore : List Nat → Nat → Deciding Nat
  | [], n => pure n
  | c :: cs, n => do readMore cs (2 * n + (← decision c).toNat)

def readMagnitude (chance : Nat → Nat) : Deciding Nat := do
  if !(← decision (chance 2)) then return 1
  else if !(← decision (chance 3)) then
    if !(← decision (chance 4)) then return 2
    else return 3 + (← decision (chance 5)).toNat
  else if !(← decision (chance 6)) then
    if !(← decision (chance 7)) then return 5 + (← readMore [159] 0)
    else return 7 + (← readMore [165, 145] 0)
  else
    let upper ← decision (chance 8)
    let lower ← decision (chance (9 + upper.toNat))
    let group := 2 * upper.toNat + lower.toNat
    return 3 + (8 <<< group) + (← readMore (largeChances group) 0)

/-- Reads so many amounts up to the last one. The end may come wherever no zero is before it. -/
def readFrom (chances : Array Nat) (k : Kind) (s : Scales) :
    Nat → Nat → Bool → Amounts → Deciding Amounts
  | 0, _, _, block => pure block
  | left + 1, situation, mayEnd, block => do
    let place := 15 - left
    let start := chancesAt k place situation
    let chance (i : Nat) : Nat := chances[start + i]?.getD 0
    let isOver ← if mayEnd then (!·) <$> decision (chance 0) else pure false
    if isOver then return block
    else if !(← decision (chance 1)) then readFrom chances k s left 0 false block
    else
      let size ← readMagnitude chance
      let isNegative ← flag
      let scaled := size * if place = 0 then s.first else s.others
      let amount : Int := if isNegative then -(scaled : Int) else scaled
      readFrom chances k s left (min 2 size) true
        (block.setIfInBounds (amountOrder[place]?.getD 0) amount)

/-- Reads a block, and whether it tells anything. -/
def readAmounts (chances : Array Nat) (k : Kind) (s : Scales) (situation : Nat) :
    Deciding (Amounts × Bool) := do
  let isTold ← decision (chances[chancesAt k k.first situation]?.getD 0)
  if isTold then
    let block ← readFrom chances k s (16 - k.first) situation false still
    return (block, true)
  else return (still, false)

/-! ### Levels -/

def amount (block : Amounts) (i : Nat) : Int := block[i]?.getD 0

/-- The means of sixteen blocks, given how these means change over the blocks. -/
def means (block : Amounts) : Array Int :=
  let turned (a b c d : Int) : List Int :=
    [a + d + (b + c), a - d + (b - c), a + d - (b + c), a - d - (b - c)]
  let columns := (List.range 4).map fun x =>
    (turned (amount block x) (amount block (4 + x)) (amount block (8 + x))
      (amount block (12 + x))).toArray
  ((List.range 4).flatMap fun y =>
    match columns.map (fun c => amount c y) with
    | [a, b, c, d] => (turned (a + 3) b c d).map fun (n : Int) => n >>> (3 : Nat)
    | _ => []).toArray

def turned (a b c d : Int) : List Int :=
  let long (n : Int) : Int := ((n * 20091) >>> (16 : Nat)) + n
  let short (n : Int) : Int := (n * 35468) >>> (16 : Nat)
  let s := short b - long d
  let t := long b + short d
  [a + c + t, a - c + s, a - c - s, a + c - t]

def addedLevels (block : Amounts) : Array Int :=
  let columns := (List.range 4).map fun x =>
    (turned (amount block x) (amount block (4 + x)) (amount block (8 + x))
      (amount block (12 + x))).toArray
  ((List.range 4).flatMap fun y =>
    match columns.map (fun c => amount c y) with
    | [a, b, c, d] => (turned (a + 4) b c d).map fun (n : Int) => n >>> (3 : Nat)
    | _ => []).toArray

end DiagramDesk.Webp
