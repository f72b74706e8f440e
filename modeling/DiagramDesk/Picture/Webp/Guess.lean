import DiagramDesk.Picture.Basic
import DiagramDesk.Picture.Webp.Amounts

/-! Planes of levels that are built from the upper left corner on, square by square, and guesses at
the levels of a square by those above it and on its left. -/
namespace DiagramDesk.Webp

/-! ### Planes -/

structure Plane where
  width : Nat
  levels : Array Nat
  deriving Repr

namespace Plane

/-- A plane of whole squares. -/
def blank (width height : Nat) : Plane := ⟨width, Array.replicate (width * height) 0⟩

def level (p : Plane) (x y : Nat) : Nat := p.levels[y * p.width + x]?.getD 0

/-- The level one up and one to the left of a place. Above the first row and on the left of the first
column there are levels as well. -/
def before (p : Plane) (x y : Nat) : Nat :=
  if y = 0 then 127 else if x = 0 then 129 else p.level (x - 1) (y - 1)

def put (p : Plane) (side x y : Nat) (square : Nat → Nat → Nat) : Plane :=
  (List.range (side * side)).foldl (fun p i =>
    let column := i % side
    let row := i / side
    { p with
      levels := p.levels.setIfInBounds ((y + row) * p.width + x + column) (square column row) }) p

end Plane

/-! ### Large squares -/

/-- A guess at a large square: one mean level, the levels above, those on the left, or those above
that go on as on the left. -/
inductive Guess where
  | mean | above | left | slope
  deriving DecidableEq, Repr

def meanOf (levels : List Nat) : Nat := (levels.foldl (· + ·) 0 + levels.length / 2) / levels.length

def Guess.square (g : Guess) (p : Plane) (side x y : Nat) : Array Nat :=
  let above := ((List.range side).map fun i => p.before (x + 1 + i) y).toArray
  let left := ((List.range side).map fun j => p.before x (y + 1 + j)).toArray
  let corner := p.before x y
  let grid (f : Nat → Nat → Nat) : Array Nat :=
    ((List.range side).flatMap fun j => (List.range side).map fun i =>
      f (above[i]?.getD 0) (left[j]?.getD 0)).toArray
  match g with
  | .above => grid fun a _ => a
  | .left => grid fun _ l => l
  | .slope => grid fun a l => Pixel.held ((a + l : Nat) - (corner : Int))
  | .mean =>
    let known := (if y = 0 then [] else above.toList) ++ (if x = 0 then [] else left.toList)
    let m := if known.isEmpty then 128 else meanOf known
    grid fun _ _ => m

/-! ### Small squares -/

inductive Heading where
  | down | right | downRight | steepRight | downLeft | steepLeft | flatDown | flatUp
  deriving DecidableEq, Repr

/-- A guess at a small square: one mean level, levels above that go on as on the left, or levels on
the edge that go on in a direction. -/
inductive SmallGuess where
  | mean
  | slope
  | along (h : Heading)
  deriving DecidableEq, Repr

namespace SmallGuess

def all : List SmallGuess := [
  mean, slope, along .down, along .right, along .downRight, along .steepRight, along .downLeft,
  along .steepLeft, along .flatDown, along .flatUp]

def index (g : SmallGuess) : Nat := all.idxOf g

def ofLarge : Guess → SmallGuess
  | .mean => mean
  | .above => along .down
  | .left => along .right
  | .slope => slope

end SmallGuess

/-- The levels on the edge of a small square: from the lower left end up to the corner and on to the
right, with both ends twice. -/
def edge (left : List Nat) (corner : Nat) (above : List Nat) : Array Nat :=
  (left.getLastD 0 :: left.reverse ++ corner :: above ++ [above.getLastD 0]).toArray

/-- What stands in a small square, row by row, when levels go on in a direction: an even number is
the mean of two levels of the edge from half of it on, and an odd one that of three. -/
def Heading.trace : Heading → List Nat
  | .down => [11, 13, 15, 17, 11, 13, 15, 17, 11, 13, 15, 17, 11, 13, 15, 17]
  | .right => [7, 7, 7, 7, 5, 5, 5, 5, 3, 3, 3, 3, 1, 1, 1, 1]
  | .downRight => [9, 11, 13, 15, 7, 9, 11, 13, 5, 7, 9, 11, 3, 5, 7, 9]
  | .steepRight => [10, 12, 14, 16, 9, 11, 13, 15, 7, 10, 12, 14, 5, 9, 11, 13]
  | .downLeft => [13, 15, 17, 19, 15, 17, 19, 21, 17, 19, 21, 23, 19, 21, 23, 25]
  | .steepLeft => [12, 14, 16, 18, 13, 15, 17, 19, 14, 16, 18, 21, 15, 17, 19, 23]
  | .flatDown => [8, 9, 11, 13, 6, 7, 8, 9, 4, 5, 6, 7, 2, 3, 4, 5]
  | .flatUp => [6, 5, 4, 3, 4, 3, 2, 1, 2, 1, 0, 0, 0, 0, 0, 0]

def edgeMean (e : Array Nat) (n : Nat) : Nat :=
  let l (i : Nat) : Nat := e[n / 2 + i]?.getD 0
  if n % 2 = 0 then (l 0 + l 1 + 1) / 2 else (l 0 + 2 * l 1 + l 2 + 2) / 4

/-- The levels that a guess gives to a small square, by the four levels on its left, the corner, and
eight levels above. -/
def SmallGuess.square (g : SmallGuess) (left : List Nat) (corner : Nat) (above : List Nat) :
    Array Nat :=
  match g with
  | .mean => Array.replicate 16 (meanOf (left ++ above.take 4))
  | .slope =>
    (left.flatMap fun l => (above.take 4).map fun a =>
      Pixel.held ((a + l : Nat) - (corner : Int))).toArray
  | .along h => (h.trace.map (edgeMean (edge left corner above))).toArray

end DiagramDesk.Webp
