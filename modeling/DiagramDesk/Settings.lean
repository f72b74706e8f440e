import DiagramDesk.Language
import DiagramDesk.Diagram.Kind

/-! What the user can choose about how a diagram looks, and the style of one rendering that
follows from it. -/
namespace DiagramDesk

inductive Theme where
  | default | dark | forest | neutral | base
  deriving DecidableEq, Repr

inductive Look where
  | classic | handDrawn
  deriving DecidableEq, Repr

inductive HandFont where
  | virgil | caveat | kalam
  deriving DecidableEq, Repr

inductive FontSize where
  | small | medium | large
  deriving DecidableEq, Repr

/-- Whether the strokes of a sketch stay the same from one rendering to the next. -/
inductive SeedMode where
  | fixed | random
  deriving DecidableEq, Repr

inductive Backdrop where
  | white | black | checker | grid
  deriving DecidableEq, Repr

/-- The choice with a given name; letter case and blanks around the name do not matter. -/
def choice? (choices : List α) (name : α → String) (s : String) : Option α :=
  choices.find? fun a => name a == canonicalName s

namespace Theme

def all : List Theme := [default, dark, forest, neutral, base]

def name : Theme → String
  | default => "default"
  | dark => "dark"
  | forest => "forest"
  | neutral => "neutral"
  | base => "base"

def ofName? : String → Option Theme := choice? all name

end Theme

namespace Look

def name : Look → String
  | classic => "classic"
  | handDrawn => "handDrawn"

end Look

namespace HandFont

def all : List HandFont := [virgil, caveat, kalam]

def name : HandFont → String
  | virgil => "virgil"
  | caveat => "caveat"
  | kalam => "kalam"

def ofName? : String → Option HandFont := choice? all name

def family : HandFont → String
  | virgil => "Virgil"
  | caveat => "Caveat"
  | kalam => "Kalam"

/-- Where the font file can be had, if anywhere. -/
def source? : HandFont → Option String
  | virgil => some "https://cdn.jsdelivr.net/gh/excalidraw/virgil/Virgil.woff2"
  | caveat | kalam => none

/-- The families to try in turn; those behind the first cover scripts that it lacks. -/
def stack (f : HandFont) : String :=
  "'" ++ f.family ++ "', 'LXGW WenKai TC', 'KaiTi', 'STKaiti', cursive"

end HandFont

namespace FontSize

def all : List FontSize := [small, medium, large]

def name : FontSize → String
  | small => "small"
  | medium => "medium"
  | large => "large"

def ofName? : String → Option FontSize := choice? all name

def pixels : FontSize → Nat
  | small => 15
  | medium => 17
  | large => 20

end FontSize

namespace SeedMode

def all : List SeedMode := [fixed, random]

def name : SeedMode → String
  | fixed => "fixed"
  | random => "random"

def ofName? : String → Option SeedMode := choice? all name

end SeedMode

namespace Backdrop

def all : List Backdrop := [white, black, checker, grid]

def name : Backdrop → String
  | white => "white"
  | black => "black"
  | checker => "checker"
  | grid => "grid"

def ofName? : String → Option Backdrop := choice? all name

/-- The color behind a picture exported with this backdrop. -/
def exportColor : Backdrop → String
  | black => "#1a1a1a"
  | checker => "transparent"
  | white | grid => "#ffffff"

end Backdrop

structure Style where
  theme : Theme
  look : Look
  handFont : HandFont
  fontSize : FontSize
  seed : Nat
  deriving DecidableEq, Repr

namespace Style

def plainFont : String := "system-ui, -apple-system, sans-serif"

def plainPixels : Nat := 14

def fontFamily (s : Style) : String := match s.look with
  | .handDrawn => s.handFont.stack
  | .classic => plainFont

def pixels (s : Style) : Nat := match s.look with
  | .handDrawn => s.fontSize.pixels
  | .classic => plainPixels

end Style

/-- Everything the user can choose. -/
structure Settings where
  theme : Theme := .default
  handDrawn : Bool := true
  handFont : HandFont := .virgil
  fontSize : FontSize := .medium
  seedMode : SeedMode := .fixed
  seed : Nat := 42
  background : Backdrop := .white
  lang : Language := .en
  deriving DecidableEq, Repr

namespace Settings

def seedRange : Nat := 10000

def look (s : Settings) : Look := if s.handDrawn then .handDrawn else .classic

/-- The style that follows from the settings as they are. -/
def style (s : Settings) : Style where
  theme := s.theme
  look := s.look
  handFont := s.handFont
  fontSize := s.fontSize
  seed := s.seed

end Settings

/-- The look that applies to a kind of diagram; some kinds can only be drawn in the classic one. -/
def DiagramKind.lookFor (kind : DiagramKind) (wanted : Look) : Look :=
  match kind with
  | classes | state | entityRelationship | gantt | pie | mindmap | timeline | xyChart => .classic
  | flowchart | sequence | gitGraph | architecture | block | generic => wanted

end DiagramDesk
