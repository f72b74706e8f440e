import DiagramDesk.Picture.Webp.Smoothing

/-! Pictures from frames: each square is guessed from those before it, what is told is added, and
then edges are smoothed. -/
namespace DiagramDesk.Webp

def Plane.putSum (p : Plane) (side x y : Nat) (levels : Array Nat) (addedTo : Array Int) : Plane :=
  p.put side x y fun i j =>
    let k := j * side + i
    Pixel.held ((levels[k]?.getD 0 : Nat) + amount addedTo k)

def addedTo (side : Nat) (blocks : List Amounts) : Array Int :=
  let blocks := (blocks.map addedLevels).toArray
  ((List.range side).flatMap fun y => (List.range side).map fun x =>
    amount (blocks[y / 4 * (side / 4) + x / 4]?.getD #[]) (y % 4 * 4 + x % 4)).toArray

def Plane.build (p : Plane) (g : Guess) (side x y : Nat) (blocks : List Amounts) : Plane :=
  p.putSum side x y (g.square p side x y) (addedTo side blocks)

/-- The four levels above a square and on its right. On the right of the last square the level in the
corner goes on. -/
def Plane.aboveRight (p : Plane) (x y : Nat) : List Nat :=
  (List.range 4).map fun i =>
    if y = 0 then 127
    else if p.width ≤ x + 16 then p.level (x + 15) (y - 1)
    else p.level (x + 16 + i) (y - 1)

/-- Builds a square that is guessed block by block. The blocks on the right look at the levels above
the square on the right. -/
def Plane.buildSmall (p : Plane) (x y : Nat) (parts : List (SmallGuess × Amounts)) : Plane :=
  let beyond := p.aboveRight x y
  parts.zipIdx.foldl (fun p ((g, block), k) =>
    let x' := x + k % 4 * 4
    let y' := y + k / 4 * 4
    let left := (List.range 4).map fun j => p.before x' (y' + 1 + j)
    let above := (List.range 8).map fun i => p.before (x' + 1 + i) y'
    let above := if k % 4 = 3 then above.take 4 ++ beyond else above
    p.putSum 4 x' y' (g.square left (p.before x' y') above) (addedLevels block)) p

def Planes.build (planes : Planes) (x y : Nat) (s : Square) (a : Added) : Planes :=
  let light := match s.light with
    | some g => planes.light.build g 16 (16 * x) (16 * y) a.light
    | none => planes.light.buildSmall (16 * x) (16 * y) (s.small.zip a.light)
  ⟨light, planes.blue.build s.color 8 (8 * x) (8 * y) a.blue,
    planes.red.build s.color 8 (8 * x) (8 * y) a.red⟩

def Frame.placed (f : Frame) : List (Nat × Nat × Square × Added) :=
  f.squares.zipIdx.flatMap fun (row, y) => row.zipIdx.map fun (s, x) => (x, y, s)

def Frame.planes (f : Frame) : Planes :=
  let across := (f.width + 15) / 16
  let down := (f.height + 15) / 16
  let blank : Planes := ⟨.blank (16 * across) (16 * down), .blank (8 * across) (8 * down),
    .blank (8 * across) (8 * down)⟩
  let built := f.placed.foldl (fun planes (x, y, s, a) => planes.build x y s a) blank
  f.placed.foldl (fun planes (x, y, s, a) => planes.smooth f.head x y s a) built

/-- The level of a color at a place in a picture of some size: a mean of the four nearest ones, of
which the nearest one counts most. -/
def Plane.colorAt (p : Plane) (width height x y : Nat) : Nat :=
  let near (n size : Nat) : Nat := min ((size - 1) / 2) (n / 2)
  let far (n size : Nat) : Nat :=
    if n % 2 = 1 then min ((size - 1) / 2) (n / 2 + 1) else n / 2 - 1
  let nx := near x width
  let fx := far x width
  let ny := near y height
  let fy := far y height
  (9 * p.level nx ny + 3 * p.level fx ny + 3 * p.level nx fy + p.level fx fy + 8) / 16

def ofLight (light blue red : Nat) : Pixel :=
  let y := light * 19077 / 256
  let part (level factor : Nat) : Nat := level * factor / 256
  let byte (n : Int) : Nat := Pixel.held (n >>> (6 : Nat))
  ⟨byte (y + part red 26149 - 14234 : Int),
    byte ((y : Int) - part blue 6419 - part red 13320 + 8708),
    byte (y + part blue 33050 - 17685 : Int), 255⟩

def Frame.picture (f : Frame) : Picture :=
  let planes := f.planes
  { width := f.width
    height := f.height
    pixel := fun x y => ofLight (planes.light.level x y)
      (planes.blue.colorAt f.width f.height x y) (planes.red.colorAt f.width f.height x y) }

end DiagramDesk.Webp
