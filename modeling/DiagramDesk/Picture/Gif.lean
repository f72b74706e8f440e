import DiagramDesk.Codec.Lzw
import DiagramDesk.Picture.Basic
import DiagramDesk.Picture.Bytes

/-! Pictures made of frames on a canvas, each with up to 256 colors. Only the first frame is looked
at. -/
namespace DiagramDesk.Gif

def signatures : List (List UInt8) := ["GIF87a", "GIF89a"].map fun s => s.toUTF8.toList

def colors? (b : Bytes) (at_ count : Nat) : Option (Array Pixel) :=
  let color (i : Nat) : Option Pixel := do
    let at_ := at_ + 3 * i
    return ⟨← b.byte? at_, ← b.byte? (at_ + 1), ← b.byte? (at_ + 2), 255⟩
  ((List.range count).mapM color).map List.toArray

def colorCount (flags : Nat) : Nat := if flags / 128 = 1 then 2 <<< (flags % 8) else 0

/-- The pieces of a text up to an empty one; each tells its length first. The number bounds how
many there are. Pieces that a file breaks off in are left out. -/
def pieces (b : Bytes) : Nat → Nat → List (List UInt8)
  | 0, _ => []
  | fuel + 1, at_ => match b.byte? at_ with
    | none | some 0 => []
    | some n => (b.extract (at_ + 1) (at_ + 1 + n)).toList :: pieces b fuel (at_ + 1 + n)

/-- Where the pieces from some place on end. -/
def behind (at_ : Nat) (pieces : List (List UInt8)) : Nat :=
  pieces.foldl (fun i p => i + 1 + p.length) at_ + 1

structure Frame where
  left : Nat
  top : Nat
  width : Nat
  height : Nat
  flags : Nat
  /-- The index of the color that lets everything through. -/
  clear : Option Nat
  deriving DecidableEq, Repr

/-- The color that a block of settings makes clear, if it does. -/
def clearOf (settings : List UInt8) : Option Nat := match settings with
  | [flags, _, _, index] => if flags % 2 = 1 then some index.toNat else none
  | _ => none

/-- Finds the first frame from some place on, and where it ends. Settings before it hold for it.
The number bounds how many blocks are looked at. -/
def frame? (b : Bytes) : Nat → Nat → Option Nat → Option (Frame × Nat)
  | 0, _, _ => none
  | fuel + 1, at_, clear => do
    match ← b.byte? at_ with
    | 0x21 =>
      let parts := pieces b b.size (at_ + 2)
      let isSettings := (← b.byte? (at_ + 1)) = 0xF9
      let clear := if isSettings then clearOf (parts.head?.getD []) else clear
      frame? b fuel (behind (at_ + 2) parts) clear
    | 0x2C =>
      return (⟨← b.low? (at_ + 1) 2, ← b.low? (at_ + 3) 2, ← b.low? (at_ + 5) 2,
        ← b.low? (at_ + 7) 2, ← b.byte? (at_ + 9), clear⟩, at_ + 10)
    | _ => failure

def Frame.order (f : Frame) : List Nat :=
  let every (start step : Nat) := (List.range f.height).filter fun y => start ≤ y ∧ y % step = start
  if f.flags / 64 % 2 = 1 then every 0 8 ++ every 4 8 ++ every 2 4 ++ every 1 2
  else List.range f.height

/-- The pixels of a frame row by row; an index without a color is clear. -/
def Frame.pixels (f : Frame) (colors : Array Pixel) (indices : Array Nat) (x y : Nat) : Pixel :=
  match f.order.idxOf? y with
  | none => .clear
  | some row =>
    let i := indices[row * f.width + x]?.getD 0
    match colors[i]? with
    | some c => if f.clear = some i then { c with alpha := 0 } else c
    | none => .clear

/-- Reads a file: the canvas with its first frame, clear where that does not reach. -/
def decode? (b : Bytes) : Option Picture := do
  let width ← b.low? 6 2
  let height ← b.low? 8 2
  let flags ← b.byte? 10
  let _ ← b.low? 11 2
  let shared := colorCount flags
  let sharedColors ← colors? b 13 shared
  let (f, at_) ← frame? b b.size (13 + 3 * shared) none
  let own := colorCount f.flags
  let colors ← if own = 0 then some sharedColors else colors? b at_ own
  if colors.isEmpty ∨ f.width = 0 ∨ f.height = 0 then failure
  let at_ := at_ + 3 * own
  let base ← b.byte? at_
  if base = 0 ∨ 11 < base then failure
  let indices ← Lzw.decode? .low base (f.width * f.height) (pieces b b.size (at_ + 1)).flatten
  let indices := indices.toArray
  return {
    width := width
    height := height
    pixel := fun x y =>
      if f.left ≤ x ∧ f.top ≤ y ∧ x < f.left + f.width ∧ y < f.top + f.height then
        f.pixels colors indices (x - f.left) (y - f.top)
      else .clear }

end DiagramDesk.Gif
