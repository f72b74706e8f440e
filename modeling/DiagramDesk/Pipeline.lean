import DiagramDesk.Fonts.Cache
import DiagramDesk.Failure
import DiagramDesk.Editor
import DiagramDesk.Preview

/-! From a text to a picture on screen. Every rendering gets a ticket; the work is done away from
the screen; and the result is put on screen only if no later ticket was given out meanwhile. -/
namespace DiagramDesk

open Text

structure RenderRequest where
  ticket : Nat
  id : String
  source : String
  style : Style
  deriving DecidableEq, Repr

/-- Work with a ticket: nothing for a blank text, else a rendering. -/
inductive RenderJob where
  | empty (ticket : Nat)
  | render (request : RenderRequest)
  deriving DecidableEq, Repr

inductive RenderOutcome where
  | empty
  | success (scene : Scene)
  | failure (failure : Failure)
  deriving DecidableEq, Repr

/-- What came of a job, with the text it was done for, and whether the diagram had to be drawn in
the classic look although the other was asked for. -/
structure RenderResult where
  ticket : Nat
  outcome : RenderOutcome
  source : String
  lookDowngraded : Bool
  deriving DecidableEq, Repr

namespace RenderJob

def ticket : RenderJob → Nat
  | empty ticket => ticket
  | render request => request.ticket

end RenderJob

def RenderRequest.look (r : RenderRequest) : Look :=
  (DiagramKind.detect r.source).lookFor r.style.look

def RenderRequest.outcome (r : RenderRequest) (engine : Engine) : RenderOutcome :=
  match engine.validate r.source with
  | .error e => .failure (Failure.ofError e)
  | .ok () =>
    match engine.render r.id r.source (EngineConfig.ofStyle r.style r.look) with
    | .error e => .failure (Failure.ofError e)
    | .ok svg => .success ⟨r.id, svg⟩

namespace RenderJob

def run (job : RenderJob) (engine : Engine) : RenderResult :=
  match job with
  | empty ticket => ⟨ticket, .empty, "", false⟩
  | render r =>
    ⟨r.ticket, r.outcome engine, r.source, r.style.look = .handDrawn && r.look = .classic⟩

/-- Has the font of a hand-drawn rendering ready; whatever comes of it, the rendering goes on. -/
def warm (job : RenderJob) (fonts : FontCache) : FontCache :=
  match job with
  | empty _ => fonts
  | render r => if r.look = .handDrawn then (fonts.preload r.style.handFont).2 else fonts

end RenderJob

/-- The pipeline: the last ticket, how many renderings there were, and the language of hints. -/
structure Pipeline where
  lang : Language
  latest : Option Nat := none
  tickets : Nat := 0
  instances : Nat := 0
  deriving DecidableEq, Repr

inductive Applied where
  | committed | stale
  deriving DecidableEq, Repr

namespace Pipeline

def instanceId (n : Nat) : String := "mermaid-diagram-" ++ toString n

def setLang (p : Pipeline) (lang : Language) : Pipeline := { p with lang }

/-- The pipeline after a ticket for this text was given out. -/
def issue (p : Pipeline) (source : String) : Pipeline :=
  { p with
    latest := some (p.tickets + 1)
    tickets := p.tickets + 1
    instances := if blank source.toList then p.instances else p.instances + 1 }

def jobFor (p : Pipeline) (source : String) (style : Style) : RenderJob :=
  if blank source.toList then .empty (p.tickets + 1)
  else .render ⟨p.tickets + 1, instanceId (p.instances + 1), source, style⟩

/-- Gives out a ticket and the job that goes with it; results of earlier tickets are stale. -/
def start (p : Pipeline) (source : String) (style : Style) : RenderJob × Pipeline :=
  (p.jobFor source style, p.issue source)

/-- Whether a result belongs to the last ticket. -/
def isLatest (p : Pipeline) (r : RenderResult) : Bool := p.latest = some r.ticket

def panel (p : Pipeline) (f : Failure) : ErrorPanel :=
  ⟨f.message, f.hint.map (·.text p.lang), f.line⟩

def commit (p : Pipeline) (r : RenderResult) (editor : Editor) (preview : Preview) (now : Nat) :
    Editor × Preview :=
  let preview := preview.setLookWarning r.lookDowngraded
  match r.outcome with
  | .empty => (editor.setDiagnostics [], preview.showPlaceholder)
  | .success scene => (editor.setDiagnostics [], preview.showScene scene now)
  | .failure f =>
    (editor.setDiagnostics [Diagnostic.ofFailure r.source f.line f.message],
      preview.showError (p.panel f))

/-- Puts a result on screen if it belongs to the last ticket. -/
def apply (p : Pipeline) (r : RenderResult) (editor : Editor) (preview : Preview) (now : Nat) :
    Applied × Editor × Preview :=
  if p.isLatest r then (.committed, p.commit r editor preview now)
  else (.stale, editor, preview)

/-- Renders the text of an editor and waits for the result, which is put on screen. -/
def render (p : Pipeline) (editor : Editor) (preview : Preview) (style : Style) (engine : Engine)
    (now : Nat) : Applied × Editor × Preview :=
  let (job, p) := p.start editor.text style
  p.apply (job.run engine) editor preview.setRendering now

end Pipeline

def jumpToError (preview : Preview) (editor : Editor) : Option Editor :=
  (preview.error?.bind (·.line)).map fun line => (editor.scrollToLine line).focus

end DiagramDesk
