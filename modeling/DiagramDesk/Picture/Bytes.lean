/-! Files as rows of bytes that are read at any place, and the numbers in them. -/
namespace DiagramDesk

abbrev Bytes := Array UInt8

namespace Bytes

def byte? (b : Bytes) (i : Nat) : Option Nat := b[i]?.map (·.toNat)

/-- The number in `n` bytes from a place on, the lowest first. -/
def low? (b : Bytes) (i : Nat) : Nat → Option Nat
  | 0 => some 0
  | n + 1 => do
    let byte ← b.byte? i
    let more ← low? b (i + 1) n
    return byte + 256 * more

def high? (b : Bytes) (i n : Nat) : Option Nat :=
  (List.range n).foldlM (fun value k => (b.byte? (i + k)).map (value * 256 + ·)) 0

def beyond (b : Bytes) (i : Nat) : List UInt8 := (b.extract i b.size).toList

def holds (b : Bytes) (i : Nat) (part : List UInt8) : Bool :=
  (b.extract i (i + part.length)).toList == part

end Bytes

end DiagramDesk
