import DiagramDesk.Codec.Bits

/-! Numbers in the bits of a scan. Words of a prefix code are given by how many there are of each
length; behind a word stand the bits of a number, the highest first. Where bits run out there are
zeros. -/
namespace DiagramDesk.Jpeg

/-- A prefix code: how many words there are of each length from one on, and the symbols in the order
of their words. -/
structure WordCode where
  counts : List Nat
  symbols : Array Nat
  deriving Repr

def nextBit : List Bool → Bool × List Bool
  | [] => (false, [])
  | b :: bits => (b, bits)

def nextNumber (n : Nat) (bits : List Bool) : Nat × List Bool :=
  let found := bits.take n
  (Bits.toNat found.reverse <<< (n - found.length), bits.drop n)

/-- Reads a word that is at least as long as the first of some counts says. The word so far, the
first word of the length before, and the place of its symbol are handed along. -/
def readWord? (symbols : Array Nat) :
    List Nat → (word first place : Nat) → List Bool → Option (Nat × List Bool)
  | [], _, _, _, _ => none
  | n :: counts, word, first, place, bits =>
    let (b, bits) := nextBit bits
    let word := 2 * word + b.toNat
    let first := 2 * first
    if word < first + n then symbols[place + (word - first)]?.map (·, bits)
    else readWord? symbols counts word (first + n) (place + n) bits

def WordCode.read? (c : WordCode) (bits : List Bool) : Option (Nat × List Bool) :=
  readWord? c.symbols c.counts 0 0 0 bits

/-- The number with a sign in the next `n` bits: the lower half of the values is negative. -/
def nextSigned (n : Nat) (bits : List Bool) : Int × List Bool :=
  let (v, bits) := nextNumber n bits
  (if n = 0 ∨ 1 <<< (n - 1) ≤ v then (v : Int) else (v : Int) - (1 <<< n : Nat) + 1, bits)

end DiagramDesk.Jpeg
