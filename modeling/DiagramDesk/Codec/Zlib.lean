import DiagramDesk.Codec.Deflate

/-! Streams of compressed bytes: a header of two bytes, blocks, and a checksum of the content.
Reading wants the whole input to be one stream. -/
namespace DiagramDesk.Zlib

/-- The sums modulo the largest prime below 65536 from which the checksum is made. -/
def sums (bytes : List UInt8) : Nat × Nat :=
  bytes.foldl (fun (a, b) byte =>
    let a := (a + byte.toNat) % 65521
    (a, (b + a) % 65521)) (1, 0)

def checksum (bytes : List UInt8) : List UInt8 :=
  let (a, b) := sums bytes
  [UInt8.ofNat (b / 256), UInt8.ofNat (b % 256), UInt8.ofNat (a / 256), UInt8.ofNat (a % 256)]

def header : List UInt8 := [0x78, 0x9C]

/-- Whether two bytes are a header: the method is the block format, the window is not too large,
no dictionary is asked for, and the pair is a multiple of 31. -/
def isHeader (method flags : UInt8) : Bool :=
  method.toNat % 16 == 8 && method.toNat / 16 ≤ 7 && flags.toNat / 32 % 2 == 0 &&
    (method.toNat * 256 + flags.toNat) % 31 == 0

/-- The content of a stream; none if the bytes are not exactly one stream. -/
def decompress? : List UInt8 → Option (List UInt8)
  | method :: flags :: rest => do
    if isHeader method flags then
      let (pieces, bits) ← Deflate.read? (Bits.ofBytes rest)
      let content := (← Piece.resolve? #[] pieces).toList
      if Bits.align bits = Bits.ofBytes (checksum content) then return content else none
    else none
  | _ => none

/-- The content of the stream at the head of some bytes, whatever stands behind its blocks. -/
def contentAhead? : List UInt8 → Option (List UInt8)
  | method :: flags :: rest => do
    if isHeader method flags then
      let (pieces, _) ← Deflate.read? (Bits.ofBytes rest)
      return (← Piece.resolve? #[] pieces).toList
    else none
  | _ => none

/-- What makes a stream of any bytes: one whole stream of them, with the usual header. -/
structure Compressor where
  compress : List UInt8 → List UInt8
  header_prefix : ∀ bytes, header <+: compress bytes
  decompress?_compress : ∀ bytes, decompress? (compress bytes) = some bytes

def room (n : Nat) : Nat := max (4 * n) 64

def expand? (bytes : List UInt8) : Option (List UInt8) :=
  (decompress? bytes).filter fun content => content.length ≤ room bytes.length

/-! ### Bytes as they are -/

def mostStored : Nat := 65535

def storedBlock (last : Bool) (bytes : List UInt8) : List UInt8 :=
  let n := bytes.length
  [if last then 1 else 0, UInt8.ofNat n, UInt8.ofNat (n / 256), UInt8.ofNat (mostStored - n),
    UInt8.ofNat ((mostStored - n) / 256)] ++ bytes

def storedBlocks (bytes : List UInt8) : List UInt8 :=
  if bytes.length ≤ mostStored then storedBlock true bytes
  else storedBlock false (bytes.take mostStored) ++ storedBlocks (bytes.drop mostStored)
termination_by bytes.length
decreasing_by
  simp only [List.length_drop]
  have : 0 < mostStored := by decide
  omega

def stored (bytes : List UInt8) : List UInt8 := header ++ storedBlocks bytes ++ checksum bytes

end DiagramDesk.Zlib
