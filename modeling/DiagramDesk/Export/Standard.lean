import DiagramDesk.Codec.Packing
import DiagramDesk.Export.Tools
import DiagramDesk.Picture.Reading
import DiagramDesk.Svg.Reader

/-! The tools at hand. They draw the boxes of a document in their colors; whatever else a document
holds leaves no mark. A picture needs no writing to be kept in a file. -/
namespace DiagramDesk

open Text

structure Box where
  x : Int
  y : Int
  width : Nat
  height : Nat
  color : Color
  deriving DecidableEq, Repr

/-- The boxes of a document from back to front, and its natural size. -/
structure BoxDrawing where
  width : Nat
  height : Nat
  boxes : List Box
  deriving Repr

namespace Svg

def drawingLanguage : List Char := "http://www.w3.org/2000/svg".toList

/-- The side of a document that tells nothing about its size. -/
def defaultSide : Nat := 100

/-- A whole number of pixels, with or without the unit. -/
def length? (s : List Char) : Option Int :=
  let body := trim s
  let body := if endsWith body "px".toList then body.take (body.length - 2) else body
  let (negative, digits) := splitSign body
  (digits? digits).map fun n => if negative then -(n : Int) else n

def Element.length? (e : Element) (name : String) : Option Int :=
  (e.value? name).bind Svg.length?

/-- The color of a box; none if it is not to be painted. -/
def Element.fill? (e : Element) : Option Color :=
  match e.value? "fill" with
  | none => some ⟨0, 0, 0, 255⟩
  | some s =>
    if trim s = "none".toList then none
    else some ((Color.ofCss? (String.ofList s)).getD ⟨0, 0, 0, 255⟩)

def groupNames : List (List Char) := ["svg", "g", "a"].map String.toList

/-- How many elements may stand around another one. -/
def mostAround : Nat := 1024

def Element.box? (e : Element) : Option Box := do
  let width ← e.length? "width"
  let height ← e.length? "height"
  let color ← e.fill?
  if e.language = drawingLanguage ∧ e.name = "rect".toList ∧ 0 < width ∧ 0 < height ∧
      color.alpha ≠ 0 ∧ e.around.all groupNames.contains then
    return ⟨(e.length? "x").getD 0, (e.length? "y").getD 0, width.toNat, height.toNat, color⟩
  else failure

def extent (boxes : List Box) : Int × Int :=
  boxes.foldl (fun (w, h) b => (max w (b.x + b.width), max h (b.y + b.height))) (0, 0)

def size (root : Element) (boxes : List Box) : Int × Int :=
  let given := ((root.length? "width").getD defaultSide, (root.length? "height").getD defaultSide)
  let (w, h) := extent boxes
  if ((root.length? "width").isNone || (root.length? "height").isNone) && 0 < w && 0 < h then (w, h)
  else given

end Svg

/-- Why a document cannot be drawn. -/
inductive DrawingFault where
  /-- It is not proper markup. -/
  | malformed
  /-- It is no drawing. -/
  | noRoot
  /-- Its elements are nested too deep. -/
  | tooDeep
  /-- It has no room. -/
  | badSize
  deriving DecidableEq, Repr

def DrawingFault.message : DrawingFault → String
  | malformed => "SVG data parsing failed cause unknown token at 1:1"
  | noRoot => "SVG data parsing failed cause the document does not have a root node"
  | tooDeep => "the maximum number of SVG elements has been reached"
  | badSize => "SVG has an invalid size"

namespace BoxDrawing

def ofMarkup (markup : String) : Except DrawingFault BoxDrawing :=
  match Svg.elements? markup.toList with
  | some (root :: rest) =>
    if rest.any fun e => Svg.mostAround < e.around.length then .error .tooDeep
    else if root.language = Svg.drawingLanguage ∧ root.name = "svg".toList then
      let boxes := rest.filterMap Svg.Element.box?
      let (w, h) := Svg.size root boxes
      if 0 < w ∧ 0 < h then .ok ⟨w.toNat, h.toNat, boxes⟩ else .error .badSize
    else .error .noRoot
  | some [] => .error .noRoot
  | none => .error (if markup.toList.all Svg.isGap then .noRoot else .malformed)

/-- Whether a pixel's center lies between two edges, when `natural` is stretched to `shown`. -/
def covers (natural shown : Nat) (start : Int) (length i : Nat) : Bool :=
  let center : Int := (2 * i + 1) * natural
  2 * start * shown ≤ center && center < 2 * (start + length) * shown

def ground : Fill → Pixel
  | .solid r g b => ⟨r, g, b, 255⟩
  | .transparent => ⟨0, 0, 0, 0⟩

def paint (d : BoxDrawing) (size : PixelSize) (fill : Fill) : Picture where
  width := size.width
  height := size.height
  pixel :=
    let front := d.boxes.reverse
    fun i j => match front.find? fun b =>
        covers d.width size.width b.x b.width i && covers d.height size.height b.y b.height j with
      | some b => ⟨b.color.red, b.color.green, b.color.blue, 255⟩
      | none => ground fill

def drawing (d : BoxDrawing) : Drawing where
  width := Single.ofNat d.width
  height := Single.ofNat d.height
  paint size _ _ fill := some (d.paint size fill)

end BoxDrawing

namespace Tools

def readBackLimit : Nat := 0x20000000

def pixels : FileContent → Except String Picture
  | .picture p => if p.byteCount ≤ readBackLimit then .ok p else .error "Memory limit exceeded"
  | .bytes content => match Picture.read? content with
    | some p => .ok p
    | none => .error "The image format could not be determined"

def standard : Tools where
  compressor := Zlib.packer
  read _ markup := match BoxDrawing.ofMarkup markup with
    | .ok d => .ok d.drawing
    | .error fault => .error fault.message
  encode p := .ok (.picture p)
  encodeAgain p := .ok (.picture p)
  decode := pixels

end Tools

end DiagramDesk
