import DiagramDesk.Number.Shortest

/-! Pan and zoom. The picture is drawn scaled and then shifted; zooming keeps the point of the
picture under an anchor in its place. All of it is written for any numbers that can be added,
multiplied, divided and compared, so that it runs on floating-point numbers and can be reasoned
about on exact ones. -/
namespace DiagramDesk

/-- Numbers for positions and scales. -/
class Scalar (α : Type) extends Add α, Sub α, Mul α, Div α, Neg α, OfScientific α where
  lt : α → α → Bool
  isFinite : α → Bool
  /-- The nearest whole number, a tie away from zero. -/
  round : α → Int

instance : Scalar Float where
  lt x y := x < y
  isFinite := Float.isFinite
  round x := x.round.toInt32.toInt

instance : Scalar Rat where
  lt x y := x < y
  isFinite _ := true
  round x := if x < 0 then -((-x + 1 / 2 : Rat).floor) else (x + 1 / 2 : Rat).floor

structure Vec (α : Type) where
  x : α
  y : α
  deriving DecidableEq, Repr

namespace Vec

variable {α : Type} [Scalar α]

instance : Add (Vec α) := ⟨fun a b => ⟨a.x + b.x, a.y + b.y⟩⟩
instance : Sub (Vec α) := ⟨fun a b => ⟨a.x - b.x, a.y - b.y⟩⟩

def scale (a : Vec α) (k : α) : Vec α := ⟨a.x * k, a.y * k⟩

def zero : Vec α := ⟨0.0, 0.0⟩

end Vec

/-- A map of the plane that keeps lines straight: the images of the two axes, then a shift. -/
structure Affine (α : Type) where
  a : α
  b : α
  c : α
  d : α
  e : α
  f : α
  deriving DecidableEq, Repr

namespace Affine

variable {α : Type} [Scalar α]

def shift (v : Vec α) : Affine α := ⟨1.0, 0.0, 0.0, 1.0, v.x, v.y⟩

def scale (s : α) : Affine α := ⟨s, 0.0, 0.0, s, 0.0, 0.0⟩

/-- The map that applies the second map first. -/
def comp (m n : Affine α) : Affine α where
  a := m.a * n.a + m.c * n.b
  b := m.b * n.a + m.d * n.b
  c := m.a * n.c + m.c * n.d
  d := m.b * n.c + m.d * n.d
  e := m.a * n.e + m.c * n.f + m.e
  f := m.b * n.e + m.d * n.f + m.f

def apply (m : Affine α) (p : Vec α) : Vec α :=
  ⟨m.a * p.x + m.c * p.y + m.e, m.b * p.x + m.d * p.y + m.f⟩

def determinant (m : Affine α) : α := m.a * m.d - m.b * m.c

/-- The map that undoes this one, if its determinant is not zero. -/
def inverse (m : Affine α) : Affine α :=
  let k := (1.0 : α) / m.determinant
  ⟨k * m.d, -k * m.b, -k * m.c, k * m.a, k * (m.c * m.f - m.d * m.e), k * (m.b * m.e - m.a * m.f)⟩

end Affine

/-- A drag under way: where it started, and the shift at that time. -/
structure Drag (α : Type) where
  start : Vec α
  origin : Vec α
  deriving DecidableEq, Repr

/-- What part of the picture is shown, and how large. -/
structure Viewport (α : Type) where
  scale : α
  translate : Vec α
  size : Vec α
  drag : Option (Drag α) := none
  deriving DecidableEq, Repr

namespace Viewport

variable {α : Type} [Scalar α]

def minScale : α := 0.1
def maxScale : α := 8.0

/-- The factors of one press of a button and of one notch of the wheel. -/
def buttonStep : α := 1.25
def wheelStep : α := 1.12

/-- A viewport of some size that shows the picture as it is. -/
def ofSize (size : Vec α) : Viewport α := { scale := 1.0, translate := Vec.zero, size := size }

def affine (v : Viewport α) : Affine α := (Affine.shift v.translate).comp (Affine.scale v.scale)

def toScreen (v : Viewport α) (p : Vec α) : Vec α := v.affine.apply p

def toContent (v : Viewport α) (p : Vec α) : Vec α := v.affine.inverse.apply p

def center (v : Viewport α) : Vec α := ⟨v.size.x / 2.0, v.size.y / 2.0⟩

def clampScale (s : α) : α :=
  if Scalar.lt s minScale then minScale else if Scalar.lt maxScale s then maxScale else s

/-- Zooms to a scale, held between the bounds, and keeps what is under the anchor in its place.
What is no finite number is ignored. -/
def zoomTo (v : Viewport α) (target : α) (anchor : Option (Vec α)) : Viewport α :=
  if Scalar.isFinite target then
    let scale := clampScale target
    let p := anchor.getD v.center
    { v with
      translate := p - (p - v.translate).scale (scale / v.scale)
      scale := scale }
  else v

def zoomIn (v : Viewport α) : Viewport α := v.zoomTo (v.scale * buttonStep) none

def zoomOut (v : Viewport α) : Viewport α := v.zoomTo (v.scale / buttonStep) none

/-- One notch of the wheel: up zooms in, down zooms out. -/
def wheel (v : Viewport α) (delta : α) (anchor : Vec α) : Viewport α :=
  if Scalar.lt delta 0.0 then v.zoomTo (v.scale * wheelStep) (some anchor)
  else if Scalar.lt 0.0 delta then v.zoomTo (v.scale / wheelStep) (some anchor)
  else v

def pan (v : Viewport α) (delta : Vec α) : Viewport α :=
  { v with translate := v.translate + delta }

def beginDrag (v : Viewport α) (p : Vec α) : Viewport α :=
  { v with drag := some ⟨p, v.translate⟩ }

/-- Moves the picture with the pointer while a drag is under way. -/
def dragTo (v : Viewport α) (p : Vec α) : Viewport α :=
  match v.drag with
  | some d => { v with translate := d.origin + (p - d.start) }
  | none => v

def endDrag (v : Viewport α) : Viewport α := { v with drag := none }

/-- Shows the picture as it is; the size stays. -/
def reset (v : Viewport α) : Viewport α := ofSize v.size

def resize (v : Viewport α) (size : Vec α) : Viewport α := { v with size := size }

def percent (v : Viewport α) : Int := Scalar.round (v.scale * 100.0)

/-- The style that draws the picture, with numbers in their shortest form. -/
def css (v : Viewport Float) : String :=
  let t (x : Float) : String := Binary.Format.double.text x.toBits.toNat
  "translate(" ++ t v.translate.x ++ "px," ++ t v.translate.y ++ "px) scale(" ++ t v.scale ++ ")"

end Viewport

end DiagramDesk
