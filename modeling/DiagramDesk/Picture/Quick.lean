import DiagramDesk.Picture.Basic
import DiagramDesk.Picture.Bytes

/-! Pictures in which each pixel is told by how it differs from the one before, by a place among
colors seen lately, or in full. -/
namespace DiagramDesk.Quick

/-- What reading knows between two orders: the last pixel, the colors seen lately, and all pixels
so far. -/
structure State where
  last : Pixel := ⟨0, 0, 0, 255⟩
  seen : Array Pixel
  pixels : Array Pixel := #[]
  deriving Repr

def place (p : Pixel) : Nat := (p.red * 3 + p.green * 5 + p.blue * 7 + p.alpha * 11) % 64

def State.again (s : State) (p : Pixel) (n : Nat) : State :=
  { s with last := p, pixels := s.pixels ++ Array.replicate n p }

/-- Adds a pixel, which is then seen. -/
def State.add (s : State) (p : Pixel) : State :=
  { s.again p 1 with seen := s.seen.setIfInBounds (place p) p }

def shifted (p : Pixel) (red green blue bias : Nat) : Pixel :=
  let move (c d : Nat) := (c + d + 256 - bias) % 256
  { p with red := move p.red red, green := move p.green green, blue := move p.blue blue }

/-- Follows orders until there are as many pixels as are wanted, and gives the bytes behind. -/
def follow? (wanted : Nat) (s : State) : List UInt8 → Option (Array Pixel × List UInt8)
  | [] => if wanted ≤ s.pixels.size then some (s.pixels, []) else none
  | b :: rest =>
    let n := b.toNat
    let low := n % 64
    if wanted ≤ s.pixels.size then some (s.pixels, b :: rest)
    else if n = 254 then match rest with
      | r :: g :: b :: rest =>
        follow? wanted (s.add ⟨r.toNat, g.toNat, b.toNat, s.last.alpha⟩) rest
      | _ => none
    else if n = 255 then match rest with
      | r :: g :: b :: a :: rest =>
        follow? wanted (s.add ⟨r.toNat, g.toNat, b.toNat, a.toNat⟩) rest
      | _ => none
    else if n < 64 then follow? wanted (s.again (s.seen[low]?.getD .clear) 1) rest
    else if n < 128 then
      follow? wanted (s.add (shifted s.last (low / 16) (low / 4 % 4) (low % 4) 2)) rest
    else if n < 192 then match rest with
      | d :: rest =>
        let p := shifted s.last low low low 32
        let d := d.toNat
        follow? wanted (s.add (shifted p (d / 16) 8 (d % 16) 8)) rest
      | [] => none
    else follow? wanted (s.again s.last (low + 1)) rest
termination_by bytes => bytes.length
decreasing_by all_goals simp only [List.length_cons]; omega

def closing : List UInt8 := [0, 0, 0, 0, 0, 0, 0, 1]

def decode? (b : Bytes) : Option Picture := do
  let width ← b.high? 4 4
  let height ← b.high? 8 4
  let channels ← b.byte? 12
  let space ← b.byte? 13
  if width = 0 ∨ height = 0 ∨ (channels ≠ 3 ∧ channels ≠ 4) ∨ 1 < space then failure
  let unseen : Pixel := if channels = 3 then ⟨0, 0, 0, 255⟩ else .clear
  let (pixels, rest) ← follow? (width * height) { seen := Array.replicate 64 unseen } (b.beyond 14)
  if rest.take 8 ≠ closing then failure
  return .ofPixels width height pixels

end DiagramDesk.Quick
