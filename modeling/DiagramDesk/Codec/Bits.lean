/-! Bit strings as they travel in bytes: the lowest bit of a byte goes first, unless the highest one
is said to. -/
namespace DiagramDesk.Bits

/-- The lowest `n` bits of a number, lowest first. -/
def ofNat : Nat → Nat → List Bool
  | 0, _ => []
  | n + 1, v => (v % 2 == 1) :: ofNat n (v / 2)

/-- The number whose bits these are, lowest first. -/
def toNat : List Bool → Nat
  | [] => 0
  | b :: bs => b.toNat + 2 * toNat bs

def ofBytes (bytes : List UInt8) : List Bool := bytes.flatMap fun b => ofNat 8 b.toNat

/-- Packs bits into bytes; the last byte is filled up with zeros. -/
def toBytes : List Bool → List UInt8
  | [] => []
  | b₀ :: b₁ :: b₂ :: b₃ :: b₄ :: b₅ :: b₆ :: b₇ :: rest =>
    UInt8.ofNat (toNat [b₀, b₁, b₂, b₃, b₄, b₅, b₆, b₇]) :: toBytes rest
  | few => [UInt8.ofNat (toNat few)]

def split? : Nat → List Bool → Option (List Bool × List Bool)
  | 0, bits => some ([], bits)
  | _ + 1, [] => none
  | n + 1, b :: bits => (split? n bits).map fun (head, rest) => (b :: head, rest)

/-- Reads a number of `n` bits, lowest first. -/
def read? (n : Nat) (bits : List Bool) : Option (Nat × List Bool) :=
  (split? n bits).map fun (head, rest) => (toNat head, rest)

/-- The bits of a byte string, where the highest bit of a byte goes first. -/
def ofBytesHigh (bytes : List UInt8) : List Bool := bytes.flatMap fun b => (ofNat 8 b.toNat).reverse

def readHigh? (n : Nat) (bits : List Bool) : Option (Nat × List Bool) :=
  (split? n bits).map fun (head, rest) => (toNat head.reverse, rest)

/-- Skips to the next byte boundary of a stream that ends on one. -/
def align (bits : List Bool) : List Bool := bits.drop (bits.length % 8)

end DiagramDesk.Bits
