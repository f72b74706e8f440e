import DiagramDesk.Picture.Jpeg.Scan

/-! Frames: the size of a picture and its components, each of which may be coarser than the picture,
and the order in which a scan tells their blocks. -/
namespace DiagramDesk.Jpeg

/-- A component: its name, how many of its blocks make a unit each way, and its scales. -/
structure Component where
  name : Nat
  across : Nat
  down : Nat
  scales : Nat
  deriving DecidableEq, Repr

structure Frame where
  width : Nat
  height : Nat
  components : Array Component
  /-- Whether waves are told in several rounds. -/
  isGradual : Bool
  deriving Repr

namespace Frame

def parts (length size : Nat) : Nat := (length + size - 1) / size

def mostAcross (f : Frame) : Nat := f.components.foldl (fun n c => max n c.across) 1
def mostDown (f : Frame) : Nat := f.components.foldl (fun n c => max n c.down) 1

def unitsAcross (f : Frame) : Nat := parts f.width (side * f.mostAcross)
def unitsDown (f : Frame) : Nat := parts f.height (side * f.mostDown)

def blocksAcross (f : Frame) (c : Component) : Nat := f.unitsAcross * c.across

def blockCount (f : Frame) (c : Component) : Nat := f.blocksAcross c * (f.unitsDown * c.down)

def still (f : Frame) : Array (Array Amounts) :=
  f.components.map fun c => Array.replicate (f.blockCount c) stillWater

/-- The blocks of a component in the order in which a scan of that component alone tells them: only
those that the picture needs. -/
def aloneOrder (f : Frame) (c : Component) : List Nat :=
  let across := parts (parts (f.width * c.across) f.mostAcross) side
  let down := parts (parts (f.height * c.down) f.mostDown) side
  (List.range down).flatMap fun y => (List.range across).map fun x => y * f.blocksAcross c + x

def unitBlocks (f : Frame) (c : Component) (x y : Nat) : List Nat :=
  (List.range c.down).flatMap fun v => (List.range c.across).map fun h =>
    (y * c.down + v) * f.blocksAcross c + (x * c.across + h)

def units (f : Frame) (scanned : List Nat) : List (List (Nat × Nat)) :=
  let component (i : Nat) : Component := f.components[i]?.getD ⟨0, 1, 1, 0⟩
  match scanned with
  | [i] => (f.aloneOrder (component i)).map fun b => [(i, b)]
  | is =>
    (List.range f.unitsDown).flatMap fun y => (List.range f.unitsAcross).map fun x =>
      is.flatMap fun i => (f.unitBlocks (component i) x y).map fun b => (i, b)

end Frame

/-- Reads blocks one after the other into all blocks there are, as far as the bits make sense; and
tells whether they did to the end. -/
def readBlocks (codes : Array Codes) (r : Round) :
    List (Nat × Nat) → Progress → Array (Array Amounts) → Array (Array Amounts) × Progress × Bool
  | [], p, planes => (planes, p, true)
  | (i, b) :: rest, p, planes =>
    let block := ((planes[i]?.getD #[])[b]?).getD stillWater
    match readBlock? (codes[i]?.getD ⟨none, none⟩) r i block p with
    | none => (planes, p, false)
    | some (block, p) =>
      readBlocks codes r rest p (planes.modify i fun plane => plane.setIfInBounds b block)

/-- Reads units in parts of so many, each from bits of its own. -/
def readParts (codes : Array Codes) (r : Round) (interval : Nat) :
    List (List Bool) → List (List (Nat × Nat)) → Array (Array Amounts) → Array (Array Amounts)
  | [], _, planes | _, [], planes => planes
  | bits :: parts, units, planes =>
    let count := if interval = 0 then units.length else interval
    let start : Progress := { bits := bits, last := Array.replicate codes.size 0 }
    let (planes, _, isSound) := readBlocks codes r (units.take count).flatten start planes
    if isSound then readParts codes r interval parts (units.drop count) planes else planes

end DiagramDesk.Jpeg
