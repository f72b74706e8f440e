import DiagramDesk.Codec.Zlib
import DiagramDesk.Picture.Basic

/-! What picture files in blocks are made of: a signature, then blocks with a name, a content and a
checksum of the two. Pictures are written one row after the other, four bytes for every pixel, and
all of it is stored as it is. -/
namespace DiagramDesk.Png

def signature : List UInt8 := [0x89, 0x50, 0x4E, 0x47, 0x0D, 0x0A, 0x1A, 0x0A]

def remainder (n : Nat) : UInt32 :=
  Nat.repeat (fun c => if c % 2 = 1 then (0xEDB88320 : UInt32) ^^^ (c >>> 1) else c >>> 1) 8
      (UInt32.ofNat n)

def remainders : Array UInt32 := ((List.range 256).map remainder).toArray

def step (c : UInt32) (b : UInt8) : UInt32 :=
  remainders[((c ^^^ b.toUInt32) % 256).toNat]?.getD 0 ^^^ (c >>> 8)

def checksum (bytes : List UInt8) : UInt32 := bytes.foldl step 0xFFFFFFFF ^^^ 0xFFFFFFFF

def four (n : Nat) : List UInt8 :=
  [UInt8.ofNat (n >>> 24), UInt8.ofNat (n >>> 16), UInt8.ofNat (n >>> 8), UInt8.ofNat n]

def numberOf (bytes : List UInt8) : Nat := bytes.foldl (fun n b => n * 256 + b.toNat) 0

def label (name : String) : List UInt8 := name.toList.map fun c => UInt8.ofNat c.toNat

/-! ### Writing -/

def block (name : String) (content : List UInt8) : List UInt8 :=
  four content.length ++ label name ++ content ++ four (checksum (label name ++ content)).toNat

/-- The rows of a picture, each behind the mark that nothing was taken off it. -/
def rows (p : Picture) : List UInt8 :=
  (List.range p.height).flatMap fun y => 0 :: (List.range p.width).flatMap fun x =>
    let c := p.pixel x y
    [UInt8.ofNat c.red, UInt8.ofNat c.green, UInt8.ofNat c.blue, UInt8.ofNat c.alpha]

def encode (p : Picture) : List UInt8 :=
  signature ++ block "IHDR" (four p.width ++ four p.height ++ [8, 6, 0, 0, 0]) ++
    block "IDAT" (Zlib.stored (rows p)) ++ block "IEND" []

end DiagramDesk.Png
