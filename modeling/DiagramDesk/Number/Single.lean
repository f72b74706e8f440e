import DiagramDesk.Number.Shortest
import DiagramDesk.Number.Reading

/-! Floating-point numbers of 32 bits, kept as their bit patterns. -/
namespace DiagramDesk

open Binary

structure Single where
  bits : UInt32
  deriving DecidableEq, Repr

namespace Single

def ofValue (v : Value) : Single := ⟨UInt32.ofNat (Format.single.encode v)⟩

def value (x : Single) : Value := Format.single.decode x.bits.toNat

def ofNat (n : Nat) : Single := ofValue (.finite false n 0)

def read? (s : String) : Option Single :=
  (Format.single.read? s.toList).map fun bits => ⟨UInt32.ofNat bits⟩

/-- The shortest text that reads back. -/
def text (x : Single) : String := Format.single.text x.bits.toNat

def mul (x y : Single) : Single := ofValue (x.value.mul y.value)

def div (x y : Single) : Single :=
  match x.value, y.value with
  | .finite a m p, .finite b n q =>
    if n = 0 then ofValue (if m = 0 then .nan else .infinite (a != b))
    else
      let low := min p q
      ⟨UInt32.ofNat ((if a != b then Format.single.signBit else 0) +
        Format.single.roundRatio (m <<< (p - low).toNat) (n <<< (q - low).toNat))⟩
  | .infinite a, .finite b _ _ => ofValue (.infinite (a != b))
  | .finite a _ _, .infinite b => ofValue (.finite (a != b) 0 0)
  | _, _ => ofValue .nan

end Single

end DiagramDesk
