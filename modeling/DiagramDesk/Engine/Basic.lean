import DiagramDesk.Settings
import DiagramDesk.Text.Escape

/-! Engines, which turn the text of a diagram into a picture, and what every engine is told. -/
namespace DiagramDesk

open Text

/-- Why an engine refuses a text; line and column count from one. -/
structure EngineError where
  message : String
  line : Option Nat := none
  column : Option Nat := none
  deriving DecidableEq, Repr

structure EngineConfig where
  theme : Theme
  look : Look
  fontFamily : String
  pixels : Nat
  seed : Nat
  deriving DecidableEq, Repr

/-- The configuration for a style in the look that applies; font and size follow the look. -/
def EngineConfig.ofStyle (style : Style) (look : Look) : EngineConfig :=
  let s := { style with look }
  ⟨s.theme, look, s.fontFamily, s.pixels, s.seed⟩

/-- An engine: a check of the text, and the drawing of a text under an identifier. -/
structure Engine where
  validate : String → Except EngineError Unit
  render : String → String → EngineConfig → Except EngineError String

/-- Checks the lines of a text: there must be a header, and it must name a kind of diagram. -/
def checkLines (ls : List (List Char)) : Except EngineError Unit :=
  match headerIndex ls with
  | none => .error { message := "No diagram definition found" }
  | some i =>
    let header := ls[i]?.getD []
    if DiagramKind.ofHeader header = .generic then
      .error {
        message := "No diagram type detected matching given configuration for text: " ++
          String.ofList (trim header)
        line := some (i + 1)
        column := some 1 }
    else .ok ()

def checkSource (source : String) : Except EngineError Unit := checkLines (lines source.toList)

/-- An engine that checks the header and sets the text of the diagram line by line. -/
def Engine.plain : Engine where
  validate := checkSource
  render id source config :=
    let rows := lines source.toList
    let step := config.pixels + 4
    let row (r : List Char × Nat) : String :=
      "<text x=\"8\" y=\"" ++ toString ((r.2 + 1) * step) ++ "\">" ++
        escapeMarkup (String.ofList r.1) ++ "</text>"
    .ok ("<svg id=\"" ++ id ++ "\" xmlns=\"http://www.w3.org/2000/svg\" width=\"800\" height=\"" ++
      toString ((rows.length + 1) * step) ++ "\" font-family=\"" ++ config.fontFamily ++
      "\" font-size=\"" ++ toString config.pixels ++ "\">" ++
      String.join (rows.zipIdx.map row) ++ "</svg>")

end DiagramDesk
