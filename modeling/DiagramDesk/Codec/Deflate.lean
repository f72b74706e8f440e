import DiagramDesk.Codec.Bits
import DiagramDesk.Codec.PrefixCode
import DiagramDesk.Codec.Pieces

/-! The block format of compressed data. Reading takes stored blocks, blocks in the fixed code and
blocks that bring their own codes, and gives the pieces they spell with the bits behind the last
block. -/
namespace DiagramDesk.Deflate

def endOfBlock : Nat := 256

/-- A run of numbers that share a symbol: the smallest, and the width of the offset from it. -/
structure Band where
  base : Nat
  width : Nat
  deriving DecidableEq, Repr

/-- The bands of copy lengths, for the symbols from 257 on. -/
def lengthBands : List Band :=
  [⟨3, 0⟩, ⟨4, 0⟩, ⟨5, 0⟩, ⟨6, 0⟩, ⟨7, 0⟩, ⟨8, 0⟩, ⟨9, 0⟩, ⟨10, 0⟩, ⟨11, 1⟩, ⟨13, 1⟩, ⟨15, 1⟩,
   ⟨17, 1⟩, ⟨19, 2⟩, ⟨23, 2⟩, ⟨27, 2⟩, ⟨31, 2⟩, ⟨35, 3⟩, ⟨43, 3⟩, ⟨51, 3⟩, ⟨59, 3⟩, ⟨67, 4⟩,
   ⟨83, 4⟩, ⟨99, 4⟩, ⟨115, 4⟩, ⟨131, 5⟩, ⟨163, 5⟩, ⟨195, 5⟩, ⟨227, 5⟩, ⟨258, 0⟩]

def distanceBands : List Band :=
  [⟨1, 0⟩, ⟨2, 0⟩, ⟨3, 0⟩, ⟨4, 0⟩, ⟨5, 1⟩, ⟨7, 1⟩, ⟨9, 2⟩, ⟨13, 2⟩, ⟨17, 3⟩, ⟨25, 3⟩, ⟨33, 4⟩,
   ⟨49, 4⟩, ⟨65, 5⟩, ⟨97, 5⟩, ⟨129, 6⟩, ⟨193, 6⟩, ⟨257, 7⟩, ⟨385, 7⟩, ⟨513, 8⟩, ⟨769, 8⟩,
   ⟨1025, 9⟩, ⟨1537, 9⟩, ⟨2049, 10⟩, ⟨3073, 10⟩, ⟨4097, 11⟩, ⟨6145, 11⟩, ⟨8193, 12⟩,
   ⟨12289, 12⟩, ⟨16385, 13⟩, ⟨24577, 13⟩]

structure Codes where
  symbols : PrefixCode
  distances : PrefixCode

/-- Word lengths of the fixed code for bytes, lengths and the end of a block. -/
def fixedSymbolLengths : List Nat :=
  List.replicate 144 8 ++ List.replicate 112 9 ++ List.replicate 24 7 ++ List.replicate 8 8

def fixedDistanceLengths : List Nat := List.replicate 32 5

def fixedCodes : Codes where
  symbols := PrefixCode.ofLengths fixedSymbolLengths
  distances := PrefixCode.ofLengths fixedDistanceLengths

def readBand? (bands : List Band) (i : Nat) (bits : List Bool) : Option (Nat × List Bool) :=
  match bands[i]? with
  | none => none
  | some band => (Bits.read? band.width bits).map fun (offset, rest) => (band.base + offset, rest)

/-- Reads the rest of a copy behind its length symbol. -/
def readCopy? (codes : Codes) (symbol : Nat) (bits : List Bool) : Option (Piece × List Bool) := do
  let (length, bits) ← readBand? lengthBands (symbol - 257) bits
  let (place, bits) ← codes.distances.read? bits
  let (distance, bits) ← readBand? distanceBands place bits
  return (.copy length distance, bits)

/-- Reads pieces up to the end of the block; the number bounds how many. -/
def readPieces? (codes : Codes) : Nat → List Bool → Option (List Piece × List Bool)
  | 0, _ => none
  | fuel + 1, bits => do
    let (symbol, bits) ← codes.symbols.read? bits
    if symbol = endOfBlock then return ([], bits)
    else
      let (piece, bits) ←
        if symbol < endOfBlock then some (Piece.literal (UInt8.ofNat symbol), bits)
        else readCopy? codes symbol bits
      let (pieces, bits) ← readPieces? codes fuel bits
      return (piece :: pieces, bits)

def readBytes? : Nat → List Bool → Option (List Piece × List Bool)
  | 0, bits => some ([], bits)
  | n + 1, bits => do
    let (byte, bits) ← Bits.read? 8 bits
    let (pieces, bits) ← readBytes? n bits
    return (.literal (UInt8.ofNat byte) :: pieces, bits)

/-- Reads a stored block: a length, its complement, and the bytes from a byte boundary on. -/
def readStored? (bits : List Bool) : Option (List Piece × List Bool) := do
  let (length, bits) ← Bits.read? 16 (Bits.align bits)
  let (complement, bits) ← Bits.read? 16 bits
  if length + complement = 65535 then readBytes? length bits else none

/-- The order in which the lengths of the code for lengths are given. -/
def lengthOrder : List Nat :=
  [16, 17, 18, 0, 8, 7, 9, 6, 10, 5, 11, 4, 12, 3, 13, 2, 14, 1, 15]

def readTriples? : Nat → List Bool → Option (List Nat × List Bool)
  | 0, bits => some ([], bits)
  | n + 1, bits => do
    let (v, bits) ← Bits.read? 3 bits
    let (vs, bits) ← readTriples? n bits
    return (v :: vs, bits)

/-- Reads word lengths one by one. A run stands for several equal lengths and may not go past the
last of them; `last` is the length before, if there is one, and `pending` what is left of a run. -/
def readLengths? (code : PrefixCode) :
    Nat → Option Nat → Nat → List Bool → Option (List Nat × List Bool)
  | 0, _, pending, bits => if pending = 0 then some ([], bits) else none
  | n + 1, last, pending + 1, bits => do
    let (ls, bits) ← readLengths? code n last pending bits
    return (last.getD 0 :: ls, bits)
  | n + 1, last, 0, bits => do
    let (symbol, bits) ← code.read? bits
    let (length, more, bits) ←
      if symbol < 16 then some (symbol, 0, bits)
      else if symbol = 16 then
        match last with
        | none => none
        | some l => (Bits.read? 2 bits).map fun (k, bits) => (l, k + 2, bits)
      else if symbol = 17 then (Bits.read? 3 bits).map fun (k, bits) => (0, k + 2, bits)
      else (Bits.read? 7 bits).map fun (k, bits) => (0, k + 10, bits)
    let (ls, bits) ← readLengths? code n (some length) more bits
    return (length :: ls, bits)

def readCodes? (bits : List Bool) : Option (Codes × List Bool) := do
  let (symbols, bits) ← Bits.read? 5 bits
  let (distances, bits) ← Bits.read? 5 bits
  let (given, bits) ← Bits.read? 4 bits
  let (triples, bits) ← readTriples? (given + 4) bits
  if symbols + 257 ≤ 286 ∧ distances + 1 ≤ 30 then
    let places := lengthOrder.zip triples
    let lengths := (List.range 19).map fun s => ((places.find? (·.1 = s)).map (·.2)).getD 0
    if PrefixCode.full lengths then
      let (all, bits) ←
        readLengths? (PrefixCode.ofLengths lengths) (symbols + 257 + (distances + 1)) none 0 bits
      let symbolCode ← PrefixCode.ofLengths? (all.take (symbols + 257))
      let distanceCode ← PrefixCode.ofLengths? (all.drop (symbols + 257))
      return (⟨symbolCode, distanceCode⟩, bits)
    else none
  else none

def readBlock? (form : Nat) (bits : List Bool) : Option (List Piece × List Bool) := do
  match form with
  | 0 => readStored? bits
  | 1 => readPieces? fixedCodes bits.length bits
  | 2 =>
    let (codes, bits) ← readCodes? bits
    readPieces? codes bits.length bits
  | _ => none

/-- Reads blocks up to the last one; the number bounds how many. -/
def readBlocks? : Nat → List Bool → Option (List Piece × List Bool)
  | 0, _ => none
  | fuel + 1, bits => do
    let (last, bits) ← Bits.read? 1 bits
    let (form, bits) ← Bits.read? 2 bits
    let (pieces, bits) ← readBlock? form bits
    if last = 1 then return (pieces, bits)
    else
      let (more, bits) ← readBlocks? fuel bits
      return (pieces ++ more, bits)

def read? (bits : List Bool) : Option (List Piece × List Bool) := readBlocks? bits.length bits

end DiagramDesk.Deflate
