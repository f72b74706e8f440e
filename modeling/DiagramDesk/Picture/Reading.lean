import DiagramDesk.Picture.Gif
import DiagramDesk.Picture.Icon
import DiagramDesk.Picture.Jpeg.Reading
import DiagramDesk.Picture.Layered
import DiagramDesk.Picture.Portable
import DiagramDesk.Picture.Quick
import DiagramDesk.Picture.Radiance
import DiagramDesk.Picture.Tagged
import DiagramDesk.Picture.Texture
import DiagramDesk.Picture.Webp.Reading

/-! Reading a picture from a file whose format is told by its first bytes. -/
namespace DiagramDesk.Picture

/-- Reads a file with two bytes for each of the four components of a pixel. -/
def readWide? (b : Bytes) : Option Picture := do
  let width ← b.high? 8 4
  let height ← b.high? 12 4
  if b.size < 16 + 8 * width * height then failure
  let level (x y i : Nat) : Nat :=
    Pixel.level 65535 ((b.high? (16 + 8 * (y * width + x) + 2 * i) 2).getD 0)
  return {
    width := width
    height := height
    pixel := fun x y => ⟨level x y 0, level x y 1, level x y 2, level x y 3⟩ }

def letters (s : String) : List UInt8 := s.toUTF8.toList

def read? (bytes : List UInt8) : Option Picture :=
  let b : Bytes := bytes.toArray
  if b.holds 0 Png.signature then Png.decode? bytes
  else if b.holds 0 [0xFF, 0xD8, 0xFF] then Jpeg.decode? bytes
  else if Gif.signatures.any (b.holds 0) then Gif.decode? b
  else if b.holds 0 (letters "BM") then Bitmap.decode? b
  else if b.holds 0 [0, 0, 1, 0] then Icon.decode? b
  else if b.holds 0 (letters "qoif") then Quick.decode? b
  else if b.holds 0 (letters "farbfeld") then readWide? b
  else if b.holds 0 Layered.signature then Layered.decode? b
  else if Webp.isSigned b then Webp.decode? b
  else if b.holds 0 Radiance.signature then Radiance.decode? bytes
  else if Tagged.signatures.any (b.holds 0) then Tagged.decode? b
  else if b.holds 0 (letters "DDS ") then Texture.decode? b
  else Portable.decode? bytes

end DiagramDesk.Picture
