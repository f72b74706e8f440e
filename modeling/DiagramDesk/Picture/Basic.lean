/-! Pictures made of pixels. -/
namespace DiagramDesk

/-- A pixel, one byte per component. -/
structure Pixel where
  red : Nat
  green : Nat
  blue : Nat
  alpha : Nat := 255
  deriving DecidableEq, Repr, Inhabited

namespace Pixel

def gray (level : Nat) (alpha : Nat := 255) : Pixel := ⟨level, level, level, alpha⟩

/-- A pixel without any color that lets everything through. -/
def clear : Pixel := ⟨0, 0, 0, 0⟩

def level (highest n : Nat) : Nat := min 255 ((n * 255 * 2 + highest) / (highest * 2))

/-- A whole number held to the values of a byte. -/
def held (n : Int) : Nat := min 255 n.toNat

end Pixel

/-- A picture: its size, and the pixel in every column and row. -/
structure Picture where
  width : Nat
  height : Nat
  pixel : Nat → Nat → Pixel

namespace Picture

/-- The picture with some pixels, row by row; a pixel that is missing is clear. -/
def ofPixels (width height : Nat) (pixels : Array Pixel) : Picture where
  width := width
  height := height
  pixel := fun x y => pixels[y * width + x]?.getD .clear

def byteCount (p : Picture) : Nat := p.width * p.height * 4

def bytes (p : Picture) : List UInt8 :=
  (List.range p.height).flatMap fun y => (List.range p.width).flatMap fun x =>
    let c := p.pixel x y
    [UInt8.ofNat c.red, UInt8.ofNat c.green, UInt8.ofNat c.blue, UInt8.ofNat c.alpha]

end Picture

end DiagramDesk
