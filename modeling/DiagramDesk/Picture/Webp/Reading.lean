import DiagramDesk.Picture.Webp.Changes
import DiagramDesk.Picture.Webp.Lossy

/-! Reading a picture from a file of chunks. A simple file has one chunk with a picture; any other
begins with a chunk on the canvas and may have alpha apart, or moving pictures, of which the first
one is read. -/
namespace DiagramDesk.Webp

/-! ### Chunks -/

/-- A chunk of a file: its name, and where its content starts and how long it is said to be. -/
structure Chunk where
  name : List UInt8
  start : Nat
  length : Nat
  deriving DecidableEq, Repr

def named (s : String) : List UInt8 := s.toUTF8.toList

def chunk? (b : Bytes) (i : Nat) : Option Chunk :=
  (b.low? (i + 4) 4).map fun length => ⟨(b.extract i (i + 4)).toList, i + 8, length⟩

def Chunk.evenLength (c : Chunk) : Nat := c.length + c.length % 2

def Chunk.stop (c : Chunk) : Nat := c.start + c.evenLength

/-- The content, as far as it is there. -/
def Chunk.content (c : Chunk) (b : Bytes) : List UInt8 :=
  (b.extract c.start (c.start + c.length)).toList

def first? (chunks : List Chunk) (name : String) : Option Chunk :=
  chunks.find? (·.name == named name)

/-- Whether a chunk holds a picture in which levels were lost. -/
def Chunk.isLossy (c : Chunk) : Bool := c.name == named "VP8 " || c.name == named "ALPH"

/-- The chunks from a place up to another, as far as they are there. A moving picture has to begin
with what its head needs, and, if none before it was lossy, with a chunk. -/
def chunks? (b : Bytes) (stop : Nat) : Nat → Nat → Bool → Option (List Chunk)
  | 0, _, _ => some []
  | fuel + 1, i, isLossy =>
    if stop ≤ i then some []
    else match chunk? b i with
      | none => some []
      | some c =>
        if c.name = named "ANMF" then
          if c.length < 24 ∨ b.size < c.start + 16 then none
          else if isLossy then (chunks? b stop fuel c.stop isLossy).map (c :: ·)
          else do
            let inner ← chunk? b (c.start + 16)
            return c :: (← chunks? b stop fuel c.stop inner.isLossy)
        else (chunks? b stop fuel c.stop isLossy).map (c :: ·)

/-! ### Alpha -/

/-- What was taken off the alpha of a pixel, by a rule and its neighbours. -/
def expectedAlpha (rule : Nat) (x y left up corner : Nat) : Nat :=
  if x = 0 ∧ y = 0 ∨ rule = 0 then 0
  else if x = 0 then up
  else if y = 0 then left
  else match rule with
    | 1 => left
    | 2 => up
    | _ => Pixel.held ((left + up : Nat) - (corner : Int))

def alphas (rule width : Nat) (told : Array Nat) : Array Nat :=
  told.foldl (fun (done : Array Nat) a =>
    let back (k : Nat) : Nat := done[done.size - k]?.getD 0
    let expected := expectedAlpha rule (done.size % width) (done.size / width)
      (back 1) (back width) (back (width + 1))
    done.push ((expected + a) % 256)) #[]

def readAlphas? (width height : Nat) (content : List UInt8) : Option (Array Nat) := do
  let head ← content.head?.map (·.toNat)
  let content := content.drop 1
  if 1 < head / 16 % 4 then failure
  let told ← match head % 4 with
    | 0 =>
      if content.length < width * height then none
      else some ((content.take (width * height)).map (·.toNat)).toArray
    | 1 => (readChanged? width height (Bits.ofBytes content)).map (·.map (·.green))
    | _ => none
  return alphas (head / 4 % 4) width told

/-! ### Pictures -/

def opaquely (p : Picture) : Picture :=
  { p with pixel := fun x y => { p.pixel x y with alpha := 255 } }

def lossless? (width height : Nat) (content : List UInt8) : Option Picture :=
  (readLossless? width height content).map (Picture.ofPixels width height)

def lossy? (width height : Nat) (content : List UInt8) : Option Picture := do
  let f ← Frame.read? content
  if f.width ≠ width ∨ f.height ≠ height then failure else return f.picture

def withAlpha? (p : Picture) (content : List UInt8) : Option Picture := do
  let alphas ← readAlphas? p.width p.height content
  return { p with pixel := fun x y =>
    { p.pixel x y with alpha := alphas[y * p.width + x]?.getD 0 } }

def placed (width height left top : Nat) (isBlended : Bool) (p : Picture) : Picture where
  width := width
  height := height
  pixel := fun x y =>
    if x < left ∨ y < top ∨ left + p.width ≤ x ∨ top + p.height ≤ y then .clear
    else
      let c := p.pixel (x - left) (y - top)
      if isBlended && c.alpha = 0 then .clear else c

def moving? (b : Bytes) (width height : Nat) (c : Chunk) : Option Picture := do
  let left ← (b.low? c.start 3).map (2 * ·)
  let top ← (b.low? (c.start + 3) 3).map (2 * ·)
  let w ← (b.low? (c.start + 6) 3).map (· + 1)
  let h ← (b.low? (c.start + 9) 3).map (· + 1)
  let marks ← b.low? (c.start + 15) 1
  if 16384 < w ∨ 16384 < h ∨ width < left + w ∨ height < top + h then failure
  let inner ← chunk? b (c.start + 16)
  if c.length < inner.evenLength + 24 then failure
  let p ←
    if inner.name = named "VP8 " then lossy? w h (inner.content b)
    else if inner.name = named "VP8L" then lossless? w h (inner.content b)
    else if inner.name = named "ALPH" then do
      let next ← chunk? b inner.stop
      if c.length < inner.length + next.length + 32 ∨ c.length < inner.evenLength + 32 then failure
      else withAlpha? (← lossy? w h (next.content b)) (inner.content b)
    else failure
  return placed width height left top (marks / 2 % 2 = 0) p

structure Canvas where
  width : Nat
  height : Nat
  hasAlpha : Bool
  isMoving : Bool
  /-- The names of chunks that have to be there. -/
  needed : List String
  deriving Repr

def canvas? (b : Bytes) (i : Nat) : Option Canvas := do
  let marks ← b.low? i 1
  let width ← b.low? (i + 4) 3
  let height ← b.low? (i + 7) 3
  let has (n : Nat) : Bool := marks.testBit n
  return {
    width := width + 1
    height := height + 1
    hasAlpha := has 4
    isMoving := has 1
    needed := (if has 1 then ["ANIM", "ANMF"] else []) ++ (if has 3 then ["EXIF"] else []) ++
      (if has 2 then ["XMP "] else []) }

def innerChunks? (b : Bytes) (c : Chunk) : Option (List Chunk) := do
  let one ← chunk? b (c.start + 16)
  if c.start + c.length < one.stop + 8 then return [one]
  else return [one, ← chunk? b one.stop]

def extended? (b : Bytes) (length : Nat) (c : Chunk) : Option Picture := do
  let canvas ← canvas? b c.start
  let chunks ← chunks? b (c.stop + (length - 12)) b.size c.stop false
  let has (name : String) : Bool := (first? chunks name).isSome
  if !(canvas.needed.all has) then failure
  if !canvas.isMoving && has "VP8 " == has "VP8L" then failure
  if 1 <<< 29 < canvas.width * canvas.height * (if canvas.hasAlpha then 4 else 3) then failure
  let frame := first? chunks "ANMF"
  let chunks := chunks ++ (← match frame with
    | some frame => innerChunks? b frame
    | none => some [])
  let p ← match canvas.isMoving, first? chunks "VP8L" with
    | true, _ => do
      let start ← first? chunks "ANIM"
      if start.length ≠ 6 ∨ b.size < start.start + 6 then failure
      moving? b canvas.width canvas.height (← frame)
    | false, some c => lossless? canvas.width canvas.height (c.content b)
    | false, none => do
      let p ← lossy? canvas.width canvas.height ((← first? chunks "VP8 ").content b)
      if canvas.hasAlpha then withAlpha? p ((← first? chunks "ALPH").content b) else return p
  return if canvas.hasAlpha then p else opaquely p

def isSigned (b : Bytes) : Bool := b.holds 0 (named "RIFF") && b.holds 8 (named "WEBP")

def decode? (b : Bytes) : Option Picture := do
  let length ← b.low? 4 4
  let c ← chunk? b 12
  if c.name = named "VP8 " then
    let p ← (Frame.read? (c.content b)).map Frame.picture
    if p.width = 0 ∨ p.height = 0 then failure else return p
  else if c.name = named "VP8L" then
    let size ← b.low? (c.start + 1) 4
    let width := (size + 1) % 0x4000
    let height := (size / 0x4000 + 1) % 0x4000
    let p ← lossless? width height (c.content b)
    return if size.testBit 28 then p else opaquely p
  else if c.name = named "VP8X" then extended? b length c
  else failure

end DiagramDesk.Webp
