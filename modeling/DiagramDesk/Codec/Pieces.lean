/-! Byte strings as pieces, and how pieces are put together. -/
namespace DiagramDesk

/-- A single byte, or so many bytes from so far back; a copy may overlap itself. -/
inductive Piece where
  | literal (byte : UInt8)
  | copy (length distance : Nat)
  deriving DecidableEq, Repr

namespace Piece

/-- Appends bytes from `distance` back, one at a time. -/
def appendCopy (distance : Nat) : Nat → Array UInt8 → Array UInt8
  | 0, out => out
  | n + 1, out => appendCopy distance n (out.push (out[out.size - distance]?.getD 0))

/-- Puts pieces together behind `out`. A copy that reaches back before the start has no result. -/
def resolve? : Array UInt8 → List Piece → Option (Array UInt8)
  | out, [] => some out
  | out, literal b :: rest => resolve? (out.push b) rest
  | out, copy length distance :: rest =>
    if 1 ≤ distance ∧ distance ≤ out.size then resolve? (appendCopy distance length out) rest
    else none

end Piece

end DiagramDesk
