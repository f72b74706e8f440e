import DiagramDesk.Codec.Zlib
import DiagramDesk.Export.Fill
import DiagramDesk.Export.Size
import DiagramDesk.Files.Tree
import DiagramDesk.Fonts.Cache

/-! What the program leaves to libraries: compressing, drawing documents, and writing and reading
the files of pictures. All but compressing may fail, with a reason in words. -/
namespace DiagramDesk

/-- A document that was read: its natural size, and the picture of so many pixels that it makes when
it is stretched, across and down, over a ground; none if there is no room for the pixels. -/
structure Drawing where
  width : Single
  height : Single
  paint : PixelSize → Single → Single → Fill → Option Picture

structure Tools where
  compressor : Zlib.Compressor
  /-- Reads a document, with some fonts at hand. -/
  read : List FontFile → String → Except String Drawing
  /-- Writes a picture as a file, and does so in another way where that fails. -/
  encode : Picture → Except String FileContent
  encodeAgain : Picture → Except String FileContent
  /-- Reads the pixels in a file. -/
  decode : FileContent → Except String Picture

end DiagramDesk
