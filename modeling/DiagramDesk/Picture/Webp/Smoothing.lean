import DiagramDesk.Picture.Webp.Frame

/-! Smoothing the edges between squares and between blocks, where the levels on both sides differ by
little. Along a line across an edge, places are counted from the edge on: two to four on each side
decide, and one to three on each side change. -/
namespace DiagramDesk.Webp

structure Strength where
  /-- How far the levels next to an edge may differ. -/
  limit : Nat
  /-- How far other neighbours may differ. -/
  inner : Nat
  /-- Where neighbours differ by more than this, the line itself has an edge. -/
  sharp : Nat
  deriving DecidableEq, Repr

/-- The strength for a square of a picture. A strength of zero smooths nothing. -/
def Head.strength (h : Head) (s : Square) : Option Strength :=
  let m := h.smoothing
  let base : Int := match h.segments with
    | none => m.level
    | some segments =>
      let own := ((segments.each[s.segment]?).getD ⟨0, 0⟩).smoothing
      if segments.isAdded then m.level + own else own
  let held (n : Int) : Nat := min 63 n.toNat
  let level := held (held base + m.added + if s.light.isNone then m.addedForSmall else 0)
  if m.level = 0 ∨ level = 0 then none
  else
    let softened :=
      if m.sharpness = 0 then level
      else min (9 - m.sharpness) (level >>> if 4 < m.sharpness then 2 else 1)
    let inner := max 1 softened
    some ⟨2 * level + inner, inner, if 40 ≤ level then 2 else if 15 ≤ level then 1 else 0⟩

/-! ### Lines -/

/-- A line across an edge: where the first level behind the edge stands, and how far it is from one
level to the next. -/
structure Line where
  start : Nat
  step : Nat

namespace Line

/-- Where the level stands that is so many before the edge, or behind it. -/
def before (l : Line) (k : Nat) : Nat := l.start - (k + 1) * l.step
def behind (l : Line) (k : Nat) : Nat := l.start + k * l.step

end Line

def levelAt (levels : Array Nat) (i : Nat) : Nat := levels[i]?.getD 0

def gap (levels : Array Nat) (i j : Nat) : Nat :=
  let a := levelAt levels i
  let b := levelAt levels j
  a - b + (b - a)

def heldSigned (n : Int) : Int := max (-128) (min 127 n)

def raised (levels : Array Nat) (i : Nat) (n : Int) : Array Nat :=
  levels.modify i fun l => Pixel.held (l + n)

/-- How much higher the level behind an edge is than the one as far before it. -/
def rise (levels : Array Nat) (l : Line) (k : Nat) : Int :=
  (levelAt levels (l.behind k) : Int) - levelAt levels (l.before k)

def isLow (limit : Nat) (levels : Array Nat) (l : Line) : Bool :=
  4 * gap levels (l.before 0) (l.behind 0) + gap levels (l.before 1) (l.behind 1) ≤ 2 * limit + 1

def isEven (inner : Nat) (levels : Array Nat) (l : Line) : Bool :=
  [0, 1, 2].all fun k => gap levels (l.before k) (l.before (k + 1)) ≤ inner &&
    gap levels (l.behind k) (l.behind (k + 1)) ≤ inner

def isSharp (sharp : Nat) (levels : Array Nat) (l : Line) : Bool :=
  sharp < gap levels (l.before 0) (l.before 1) || sharp < gap levels (l.behind 0) (l.behind 1)

/-- The share of a rise that the level before an edge rises by, or the one behind it sinks by. -/
def part (n added : Int) : Int := max (-16) (min 15 ((n + added) >>> (3 : Nat)))

def smoothNext (levels : Array Nat) (l : Line) : Array Nat :=
  let n := 3 * rise levels l 0 + heldSigned (-rise levels l 1)
  raised (raised levels (l.before 0) (part n 3)) (l.behind 0) (-part n 4)

def smoothBlocks (levels : Array Nat) (l : Line) : Array Nat :=
  let n := 3 * rise levels l 0
  let less := (part n 4 + 1) >>> (1 : Nat)
  let levels := raised (raised levels (l.before 0) (part n 3)) (l.behind 0) (-part n 4)
  raised (raised levels (l.before 1) less) (l.behind 1) (-less)

def smoothSquares (levels : Array Nat) (l : Line) : Array Nat :=
  let n := heldSigned (3 * rise levels l 0 + heldSigned (-rise levels l 1))
  [(0, 27), (1, 18), (2, 9)].foldl (fun levels (k, share) =>
    let m : Int := (n * share + 63) >>> (7 : Nat)
    raised (raised levels (l.before k) m) (l.behind k) (-m)) levels

def smoothSimply (limit : Nat) (levels : Array Nat) (l : Line) : Array Nat :=
  if isLow limit levels l then smoothNext levels l else levels

def smoothWith (soft : Array Nat → Line → Array Nat) (limit : Nat) (s : Strength)
    (levels : Array Nat) (l : Line) : Array Nat :=
  if isLow limit levels l && isEven s.inner levels l then
    if isSharp s.sharp levels l then smoothNext levels l else soft levels l
  else levels

/-! ### Edges -/

def upright (p : Plane) (side x y : Nat) : List Line :=
  (List.range side).map fun j => ⟨(y + j) * p.width + x, 1⟩
def flat (p : Plane) (side x y : Nat) : List Line :=
  (List.range side).map fun i => ⟨y * p.width + x + i, p.width⟩

def seams (side : Nat) : List Nat := (List.range (side / 4)).tail.map (4 * ·)

def smoothSquare (outer seam : Array Nat → Line → Array Nat) (isSeamed : Bool) (side : Nat)
    (p : Plane) (x y : Nat) : Plane :=
  let ofSeams (lines : Nat → List Line) : List Line :=
    if isSeamed then (seams side).flatMap lines else []
  let levels := if x = 0 then p.levels else (upright p side x y).foldl outer p.levels
  let levels := (ofSeams fun k => upright p side (x + k) y).foldl seam levels
  let levels := if y = 0 then levels else (flat p side x y).foldl outer levels
  { p with levels := (ofSeams fun k => flat p side x (y + k)).foldl seam levels }

/-! ### Frames -/

/-- The planes of a picture: brightness, and how far colors lean to blue and to red, which are half
as wide and high. -/
structure Planes where
  light : Plane
  blue : Plane
  red : Plane
  deriving Repr

def Planes.smooth (h : Head) (planes : Planes) (x y : Nat) (s : Square) (a : Added) : Planes :=
  match h.strength s with
  | none => planes
  | some strength =>
    let isSeamed := s.light.isNone || a.isTold
    let outer := strength.limit + 4
    if h.smoothing.isSimple then
      { planes with
        light := smoothSquare (smoothSimply outer) (smoothSimply strength.limit) isSeamed 16
          planes.light (16 * x) (16 * y) }
    else
      let smooth (side : Nat) (p : Plane) : Plane :=
        smoothSquare (smoothWith smoothSquares outer strength)
          (smoothWith smoothBlocks strength.limit strength) isSeamed side p (side * x) (side * y)
      ⟨smooth 16 planes.light, smooth 8 planes.blue, smooth 8 planes.red⟩

end DiagramDesk.Webp
