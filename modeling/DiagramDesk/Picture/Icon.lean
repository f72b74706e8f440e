import DiagramDesk.Picture.Bitmap
import DiagramDesk.Picture.Png.Reading

/-! Files that hold one picture in several sizes. The one with the most colors is taken, and of
those the largest. It is a whole file in blocks, or rows of plain numbers with a mask behind them
that makes pixels clear. -/
namespace DiagramDesk.Icon

/-- What the list of pictures says about one of them. -/
structure Entry where
  width : Nat
  height : Nat
  depth : Nat
  length : Nat
  start : Nat
  deriving DecidableEq, Repr

def entry? (b : Bytes) (at_ : Nat) : Option Entry := do
  let size (n : Nat) : Nat := if n = 0 then 256 else n
  if 256 < (← b.low? (at_ + 4) 2) ∨ 256 < (← b.low? (at_ + 6) 2) then failure
  return ⟨size (← b.byte? at_), size (← b.byte? (at_ + 1)), ← b.low? (at_ + 6) 2,
    ← b.low? (at_ + 8) 4, ← b.low? (at_ + 12) 4⟩

def Entry.beats (e best : Entry) : Bool :=
  best.depth < e.depth || (e.depth == best.depth && best.width * best.height < e.width * e.height)

/-- The best entry; the last one is kept unless another beats it. -/
def best? (entries : List Entry) : Option Entry :=
  entries.getLast?.map fun last =>
    entries.dropLast.foldl (fun best e => if e.beats best then e else best) last

/-- A picture with the pixels made clear that a mask names, one bit for each, whose rows take a
multiple of four bytes and go from the lowest to the highest. -/
def masked (b : Bytes) (at_ : Nat) (p : Picture) : Picture :=
  let rowBytes := (p.width + 31) / 32 * 4
  { p with
    pixel := fun x y =>
      let byte := (b.byte? (at_ + (p.height - 1 - y) * rowBytes + x / 8)).getD 0
      if byte >>> (7 - x % 8) % 2 = 1 then { p.pixel x y with alpha := 0 } else p.pixel x y }

/-- Reads rows of plain numbers. The head counts the rows of the mask too. -/
def plain? (b : Bytes) (e : Entry) : Option Picture := do
  let h ← Bitmap.head? b e.start true
  let h := { h with height := h.height / 2 }
  if h.packing = .runs ∨ h.width ≠ e.width ∨ h.height ≠ e.height then failure
  let start := h.paletteEnd
  let p := h.picture (← h.pixels? b start)
  let behind := start + h.rowBytes * h.height
  let maskEnd := behind + (h.width + 31) / 32 * 4 * h.height
  if maskEnd ≤ e.start + e.length then
    if b.size < maskEnd then failure
    return masked b behind p
  else if e.start + e.length = behind then return p
  else failure

/-- Reads a file in blocks, which must have four bytes for each pixel. -/
def blocks? (b : Bytes) (e : Entry) : Option Picture := do
  let p ← Png.decode? (b.beyond e.start)
  let isFull := b.holds (e.start + 24) [8, 6]
  if e.length < 8 ∨ !isFull ∨ p.width ≠ e.width ∨ p.height ≠ e.height then failure
  return p

def decode? (b : Bytes) : Option Picture := do
  let count ← b.low? 4 2
  let entries ← (List.range count).mapM fun i => entry? b (6 + 16 * i)
  let e ← best? entries
  if b.holds e.start Png.signature then blocks? b e else plain? b e

end DiagramDesk.Icon
