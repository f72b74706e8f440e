import DiagramDesk.Number.Single

/-! How large an exported picture becomes. -/
namespace DiagramDesk

open Binary

structure PixelSize where
  width : Nat
  height : Nat
  deriving DecidableEq, Repr

namespace PixelSize

/-- The scale of an export unless another one is asked for, and the bounds of the scale. -/
def defaultScale : Single := Single.ofNat 4
def minScale : Single := Single.ofValue (.finite false 1 (-2))
def maxScale : Single := Single.ofNat 16

def longest : Nat := 16384

/-- The largest number that a report of a size can hold. -/
def reportLimit : Nat := 0xFFFFFFFFFFFFFFFF

/-- A scale held between the bounds; what is not finite counts as the default. -/
def clampScale (s : Single) : Single :=
  if s.value.isFinite then
    if s.value.isBelow 1 4 then minScale
    else if s.value.isAbove 16 1 then maxScale
    else s
  else defaultScale

def natural (width height : Single) : Single × Single :=
  if width.value.isPositive && height.value.isPositive then (width, height)
  else (Single.ofNat 800, Single.ofNat 600)

/-- The size of a picture of a document at a scale: whole pixels, at least one each way. A size
out of bounds is reported in place of an answer. -/
def target (width height scale : Single) : Except PixelSize PixelSize :=
  let (w, h) := natural width height
  let w := (w.mul scale).value
  let h := (h.mul scale).value
  if w.isAbove longest 1 || h.isAbove longest 1 then
    .error ⟨w.ceilWithin reportLimit, h.ceilWithin reportLimit⟩
  else .ok ⟨max 1 (w.ceilWithin longest), max 1 (h.ceilWithin longest)⟩

/-- How far a side of a document is stretched to fill so many pixels; one that is too short counts
as one pixel. -/
def stretch (pixels : Nat) (side : Single) : Single :=
  (Single.ofNat pixels).div (if side.value.isAbove 1 1 then side else Single.ofNat 1)

end PixelSize

end DiagramDesk
