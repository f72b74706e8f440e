import DiagramDesk.Color
import DiagramDesk.Settings

/-! What is painted behind an exported picture. -/
namespace DiagramDesk

/-- A ground to paint on: a color without alpha, or nothing at all. -/
inductive Fill where
  | solid (red green blue : Nat)
  | transparent
  deriving DecidableEq, Repr

namespace Fill

/-- White, the ground that is used unless another one is asked for. -/
def white : Fill := .solid 255 255 255

/-- The ground of a color: alpha counts only where it is zero. -/
def ofColor (c : Color) : Fill :=
  if c.alpha = 0 then .transparent else .solid c.red c.green c.blue

def ofBackdrop (b : Backdrop) : Fill :=
  ((Color.ofCss? b.exportColor).map ofColor).getD .transparent

/-- A ground by the name of a backdrop, or by any color. -/
def ofText? (text : String) : Option Fill :=
  match Backdrop.ofName? text with
  | some b => some (ofBackdrop b)
  | none => (Color.ofCss? text).map ofColor

end Fill

end DiagramDesk
