import DiagramDesk.Settings
import DiagramDesk.Notice
import DiagramDesk.Viewport

/-! The pane that shows the diagram. -/
namespace DiagramDesk

structure Scene where
  id : String
  markup : String
  deriving DecidableEq, Repr

/-- What is shown in place of a diagram that could not be drawn. -/
structure ErrorPanel where
  message : String
  hint : Option String := none
  line : Option Nat := none
  deriving DecidableEq, Repr

def ErrorPanel.title (p : ErrorPanel) (lang : Language) : String :=
  let t := lang.phrases
  match p.line with
  | some n => t.syntaxError ++ " · " ++ t.line n
  | none => t.syntaxError

inductive Content where
  | placeholder
  | diagram (scene : Scene)
  | error (panel : ErrorPanel)
  deriving DecidableEq, Repr

inductive RenderStatus where
  | idle
  | rendering
  | ok (expires : Nat)
  | error
  deriving DecidableEq, Repr

/-- The pane. -/
structure Preview where
  content : Content := .placeholder
  status : RenderStatus := .idle
  viewport : Viewport Float := Viewport.ofSize Vec.zero
  background : Backdrop := .white
  lookWarning : Bool := false

namespace Preview

def okDuration : Nat := 1500

def scene? (p : Preview) : Option Scene := match p.content with
  | .diagram scene => some scene
  | _ => none

def error? (p : Preview) : Option ErrorPanel := match p.content with
  | .error panel => some panel
  | _ => none

def setRendering (p : Preview) : Preview := { p with status := .rendering }

def setLookWarning (p : Preview) (on : Bool) : Preview := { p with lookWarning := on }

def showPlaceholder (p : Preview) : Preview := { p with content := .placeholder, status := .idle }

def showScene (p : Preview) (scene : Scene) (now : Nat) : Preview :=
  { p with content := .diagram scene, status := .ok (later now okDuration) }

def showError (p : Preview) (panel : ErrorPanel) : Preview :=
  { p with content := .error panel, status := .error }

/-- Closes the panel; the status goes on reporting the failure. -/
def dismissError (p : Preview) : Preview := match p.content with
  | .error _ => { p with content := .placeholder }
  | _ => p

def isDue (p : Preview) (now : Nat) : Bool := match p.status with
  | .ok expires => expires ≤ now
  | _ => false

def tick (p : Preview) (now : Nat) : Preview :=
  if p.isDue now then { p with status := .idle } else p

/-- The status in words; nothing while idle. -/
def statusText (p : Preview) (lang : Language) : String :=
  let t := lang.phrases
  match p.status with
  | .idle => ""
  | .rendering => t.rendering
  | .ok _ => t.renderOk
  | .error => t.renderError

end Preview

end DiagramDesk
