import DiagramDesk.Picture.Basic
import DiagramDesk.Picture.Bytes

/-! Pictures as rows of plain numbers, the lowest row first unless the head says otherwise. A pixel
is an index into a palette, three or four bytes, or a number with a mask for each component; indices
may also come in runs. -/
namespace DiagramDesk.Bitmap

/-! ### Masks -/

/-- Which bits of a number hold a component: the lowest one, and how many. -/
structure Field where
  shift : Nat
  width : Nat
  deriving DecidableEq, Repr

/-- How many zeros a number ends in, up to a limit. -/
def zerosBelow (n : Nat) : Nat → Nat
  | 0 => 0
  | limit + 1 => if n % 2 = 0 then zerosBelow (n / 2) limit + 1 else 0

def field? (limit mask : Nat) : Option Field :=
  if mask = 0 then some ⟨0, 0⟩
  else
    let shift := zerosBelow mask 32
    let width := ((List.range 33).find? fun w => mask >>> shift == 1 <<< w - 1).getD 0
    if width = 0 ∨ limit < shift + width then none
    else some ⟨shift + (width - 8), min width 8⟩

def Field.read (f : Field) (n : Nat) : Nat :=
  Pixel.level (1 <<< f.width - 1) (n >>> f.shift % 1 <<< f.width)

structure Fields where
  red : Field
  green : Field
  blue : Field
  alpha : Field
  deriving DecidableEq, Repr

def Fields.pixel (f : Fields) (n : Nat) : Pixel :=
  ⟨f.red.read n, f.green.read n, f.blue.read n, if f.alpha.width = 0 then 255 else f.alpha.read n⟩

/-! ### The head -/

inductive Packing where
  | indexed
  | runs
  | components (hasAlpha : Bool)
  | fields (f : Fields)
  deriving DecidableEq, Repr

structure Head where
  width : Nat
  height : Nat
  isTopFirst : Bool := false
  depth : Nat
  packing : Packing
  /-- How many colors the palette has, and how many bytes each. -/
  colors : Nat × Nat := (0, 4)
  /-- Where the palette would start. -/
  behind : Nat
  deriving DecidableEq, Repr

def signed (n : Nat) : Int := if n < 0x80000000 then n else (n : Int) - 0x100000000

def largest : Nat := 65535

def oldHead? (b : Bytes) (at_ : Nat) : Option Head := do
  let depth ← b.low? (at_ + 10) 2
  if (← b.low? (at_ + 8) 2) ≠ 1 ∨ !([1, 4, 8, 24].contains depth) then failure
  return {
    width := ← b.low? (at_ + 4) 2
    height := ← b.low? (at_ + 6) 2
    depth := depth
    packing := if depth = 24 then .components false else .indexed
    colors := if depth = 24 then (0, 3) else (1 <<< depth, 3)
    behind := at_ + 12 }

def fields? (b : Bytes) (at_ size depth : Nat) : Option Fields := do
  let field (i : Nat) : Option Field := do field? depth (← b.low? (at_ + 40 + 4 * i) 4)
  let alpha ← if 56 ≤ size then field 3 else some ⟨0, 0⟩
  let f : Fields := ⟨← field 0, ← field 1, ← field 2, alpha⟩
  if f.red.width = 0 ∨ f.green.width = 0 ∨ f.blue.width = 0 then failure else return f

def plainFields : Fields := ⟨⟨10, 5⟩, ⟨5, 5⟩, ⟨0, 5⟩, ⟨0, 0⟩⟩

def packing? (b : Bytes) (at_ size depth method : Nat) (isIcon : Bool) : Option Packing :=
  match method, depth with
  | 0, 1 | 0, 2 | 0, 4 | 0, 8 => some .indexed
  | 0, 16 => some (.fields plainFields)
  | 0, 24 => some (.components false)
  | 0, 32 => some (.components isIcon)
  | 1, 8 | 2, 4 => some .runs
  | 3, 16 | 3, 32 => (fields? b at_ size depth).map .fields
  | _, _ => none

def newHead? (b : Bytes) (at_ size : Nat) (isIcon : Bool) : Option Head := do
  let width := signed (← b.low? (at_ + 4) 4)
  let height := signed (← b.low? (at_ + 8) 4)
  let depth ← b.low? (at_ + 14) 2
  let method ← b.low? (at_ + 16) 4
  let used ← b.low? (at_ + 32) 4
  let _ ← b.low? (at_ + 36) 4
  let packing ← packing? b at_ size depth method isIcon
  if (← b.low? (at_ + 12) 2) ≠ 1 ∨ width < 0 ∨ (largest : Int) < width ∨ (largest : Int) < height ∨
      height = -0x80000000 ∨ (height < 0 ∧ method ≠ 0 ∧ method ≠ 3) then failure
  let isIndexed := packing = .indexed ∨ packing = .runs
  if isIndexed ∧ 1 <<< depth < used then failure
  return {
    width := width.toNat
    height := height.natAbs
    isTopFirst := height < 0
    depth := depth
    packing := packing
    colors := if !isIndexed then (0, 4) else if used = 0 then (1 <<< depth, 4) else (used, 4)
    behind := at_ + size + if method = 3 ∧ size ≠ 52 ∧ size ≠ 56 then 12 else 0 }

def head? (b : Bytes) (at_ : Nat) (isIcon : Bool) : Option Head := do
  let size ← b.low? at_ 4
  if size = 12 then oldHead? b at_
  else if [40, 52, 56, 108, 124].contains size then newHead? b at_ size isIcon
  else failure

def Head.paletteEnd (h : Head) : Nat := h.behind + h.colors.1 * h.colors.2

/-- The palette; a color that is not in it is black. -/
def Head.palette? (h : Head) (b : Bytes) : Option (Array Pixel) :=
  if b.size < h.paletteEnd then none
  else
    let colors := (List.range h.colors.1).mapM fun i =>
      let at_ := h.behind + i * h.colors.2
      do return (⟨← b.byte? (at_ + 2), ← b.byte? (at_ + 1), ← b.byte? at_, 255⟩ : Pixel)
    colors.map (·.toArray)

def entry (palette : Array Pixel) (i : Nat) : Pixel := palette[i]?.getD ⟨0, 0, 0, 255⟩

/-! ### Rows without runs -/

/-- The bytes of a row, which are a multiple of four. -/
def Head.rowBytes (h : Head) : Nat := (h.width * h.depth + 31) / 32 * 4

def Head.pixelAt? (h : Head) (b : Bytes) (palette : Array Pixel) (row x : Nat) : Option Pixel :=
  let bit := x * h.depth
  let at_ := row + bit / 8
  match h.packing with
  | .indexed => do
    let byte ← b.byte? at_
    return entry palette (byte >>> (8 - h.depth - bit % 8) % 1 <<< h.depth)
  | .components hasAlpha => do
    let alpha ← if hasAlpha then b.byte? (at_ + 3) else some 255
    return ⟨← b.byte? (at_ + 2), ← b.byte? (at_ + 1), ← b.byte? at_, alpha⟩
  | .fields f => (b.low? at_ (h.depth / 8)).map f.pixel
  | .runs => none

/-! ### Runs -/

/-- A run of pixels being written: where the next one goes, and all of them so far. -/
structure Canvas where
  width : Nat
  height : Nat
  x : Nat := 0
  y : Nat := 0
  pixels : Array Pixel

/-- Writes pixels along a row; false if they do not fit. -/
def Canvas.write (c : Canvas) (colors : List Pixel) : Canvas × Bool :=
  let fitting := colors.take (c.width - c.x)
  let pixels := (fitting.zipIdx (c.y * c.width + c.x)).foldl (fun ps (p, i) => ps.setIfInBounds i p)
    c.pixels
  ({ c with x := c.x + colors.length, pixels := pixels }, fitting.length == colors.length)

/-- Moves on without writing, downwards and to the right. -/
def Canvas.move? (c : Canvas) (right down : Nat) : Option Canvas :=
  if (down = 0 ∨ (c.y + down < c.height ∧ c.x ≤ c.width)) ∧ c.x + right ≤ c.width then
    some { c with x := c.x + right, y := c.y + down }
  else none

/-- The indices in some bytes, one or two in each. -/
def indices (depth : Nat) (bytes : List UInt8) : List Nat :=
  if depth = 4 then bytes.flatMap fun b => [b.toNat / 16, b.toNat % 16]
  else bytes.map (·.toNat)

/-- Follows the orders in some bytes: a run of one byte, single pixels, the end of a row, the end
of the picture, or a move. -/
def follow? (depth : Nat) (palette : Array Pixel) (c : Canvas) :
    List UInt8 → Option (Array Pixel)
  | 0 :: 0 :: rest =>
    if c.height ≤ c.y + 1 then some c.pixels
    else follow? depth palette { c with x := 0, y := c.y + 1 } rest
  | 0 :: 1 :: _ => some c.pixels
  | 0 :: 2 :: right :: down :: rest =>
    match c.move? right.toNat down.toNat with
    | some c => follow? depth palette c rest
    | none => none
  | 0 :: n :: rest =>
    let count := if depth = 4 then (n.toNat + 1) / 2 else n.toNat
    let length := count + count % 2
    if rest.length < length then none
    else
      let colors := ((indices depth (rest.take length)).take n.toNat).map (entry palette)
      match c.write colors with
      | (c, true) => follow? depth palette c (rest.drop length)
      | (c, false) => some c.pixels
  | n :: byte :: rest =>
    let colors := (indices depth (List.replicate n.toNat byte)).take n.toNat
    match c.write (colors.map (entry palette)) with
    | (c, true) => follow? depth palette c rest
    | (c, false) => some c.pixels
  | _ => none
termination_by bytes => bytes.length
decreasing_by all_goals simp only [List.length_drop, List.length_cons]; omega

/-! ### Files -/

def Head.pixels? (h : Head) (b : Bytes) (start : Nat) : Option (Array Pixel) := do
  let palette ← h.palette? b
  if h.packing = .runs then
    let black := Array.replicate (h.width * h.height) (⟨0, 0, 0, 255⟩ : Pixel)
    let c : Canvas := { width := h.width, height := h.height, pixels := black }
    if h.height = 0 then return black else follow? h.depth palette c (b.beyond start)
  else
    if b.size < start + h.rowBytes * h.height then failure
    let rows ← (List.range h.height).mapM fun y =>
      (List.range h.width).mapM (h.pixelAt? b palette (start + y * h.rowBytes))
    return rows.flatten.toArray

def Head.picture (h : Head) (pixels : Array Pixel) : Picture where
  width := h.width
  height := h.height
  pixel := fun x y =>
    let row := if h.isTopFirst then y else h.height - 1 - y
    pixels[row * h.width + x]?.getD .clear

def decode? (b : Bytes) : Option Picture := do
  let h ← head? b 14 false
  return h.picture (← h.pixels? b (← b.low? 10 4))

end DiagramDesk.Bitmap
