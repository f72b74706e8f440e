import DiagramDesk.Session.Command
import DiagramDesk.Session.Dice
import DiagramDesk.Share.Link

/-! The state of a session, and how it changes with what happens. What reaches outside the session
is done elsewhere. -/
namespace DiagramDesk

open Text

/-- A session. -/
structure Session where
  /-- The file that holds the text. -/
  filePath : String
  settings : Settings
  editor : Editor
  preview : Preview
  pipeline : Pipeline
  /-- The page that links lead to. -/
  baseUrl : Url
  /-- The file that every new diagram is exported to. -/
  output : Option String
  exportFormat : ExportFormat
  scale : Single
  dice : Dice
  now : Nat := 0
  quit : Bool := false
  notice : NoticeSlot := {}
  renderRequested : Bool := true
  saveRequested : Bool := false

/-- What a session starts from. -/
structure SessionPlan where
  filePath : String
  source : String
  settings : Settings
  baseUrl : Url
  output : Option String := none
  exportFormat : ExportFormat := .svg
  scale : Single := PixelSize.defaultScale
  dice : Dice

namespace Session

/-- A session at its start: a rendering is asked for, and the session hears of every new text of
its editor. -/
def start (p : SessionPlan) : Session where
  filePath := p.filePath
  settings := p.settings
  editor := (Editor.ofText p.source).subscribe
  preview := { background := p.settings.background }
  pipeline := { lang := p.settings.lang }
  baseUrl := p.baseUrl
  output := p.output
  exportFormat := p.exportFormat
  scale := p.scale
  dice := p.dice

def phrases (s : Session) : Phrases := s.settings.lang.phrases

def showNotice (s : Session) (n : Notice) : Session := { s with notice := s.notice.put n s.now }

def requestRender (s : Session) : Session := { s with renderRequested := true }

def requestSave (s : Session) : Session := { s with saveRequested := true }

/-- Asks for a rendering if the editor has sent new texts, and takes them. -/
def drainEdits (s : Session) : Session :=
  match s.editor.waiting? 0 with
  | some (_ :: _) => { s with editor := s.editor.take 0 }.requestRender
  | _ => s

/-- Changes the settings and asks for a rendering. -/
def restyle (s : Session) (change : Settings → Settings) : Session :=
  { s with settings := change s.settings }.requestRender

def look (s : Session) (change : Viewport Float → Viewport Float) : Session :=
  { s with preview := { s.preview with viewport := change s.preview.viewport } }

def receive (s : Session) (r : RenderResult) : Session :=
  let (_, editor, preview) := s.pipeline.apply r s.editor s.preview s.now
  { s with editor, preview }

def react (s : Session) : Message → Session
  | .sourceChanged text =>
    if text = s.editor.text then s else { s with editor := s.editor.setText text }
  | .renderNow => { s with preview := s.preview.setRendering }
  | .renderFinished r => s.receive r
  | .tick now =>
    { s with now, preview := s.preview.tick now, notice := s.notice.tick now }
  | .format =>
    if s.editor.isUnformatted then { s with editor := s.editor.format }.requestSave else s
  | .toggleHandDrawn => s.restyle fun t => { t with handDrawn := !t.handDrawn }
  | .setTheme theme => s.restyle ({ · with theme })
  | .setHandFont handFont => s.restyle ({ · with handFont })
  | .setFontSize fontSize => s.restyle ({ · with fontSize })
  | .setSeedMode seedMode => { s with settings := { s.settings with seedMode } }
  | .setBackground background =>
    { s with
      settings := { s.settings with background }
      preview := { s.preview with background } }
  | .reshuffleSeed =>
    let (settings, dice) := s.settings.reshuffle s.dice
    { s with settings, dice }.requestRender
  | .setLang lang =>
    { s with pipeline := s.pipeline.setLang lang }.restyle ({ · with lang })
  | .zoomIn => s.look Viewport.zoomIn
  | .zoomOut => s.look Viewport.zoomOut
  | .zoomReset => s.look Viewport.reset
  | .pan delta => s.look (·.pan delta)
  | .jumpToError => { s with editor := (DiagramDesk.jumpToError s.preview s.editor).getD s.editor }
  | .dismissError => { s with preview := s.preview.dismissError }
  | .notify n => s.showNotice n
  | .quit => { s with quit := true }
  | .export .. | .copyShareLink | .copyEmbed | .copyPrompt | .showHelp => s

/-- What happens inside the session, and the request that follows from a new text. -/
def update (s : Session) (m : Message) : Session := (s.react m).drainEdits

def shareUrl (s : Session) (z : Zlib.Compressor) : Url := Link.shareUrl z s.baseUrl s.editor.text

def fileName (s : Session) : String := (Path.fileName? s.filePath).getD s.filePath

def contentLine (s : Session) : String := match s.preview.content with
  | .placeholder => s.phrases.placeholder
  | .diagram scene => scene.id ++ " @ " ++ toString s.preview.viewport.percent ++ "%"
  | .error panel => panel.title s.settings.lang

def statusLine (s : Session) : String :=
  let status := s.preview.statusText s.settings.lang
  s.fileName ++ " | " ++ (if status.isEmpty then "" else status ++ " ") ++ s.contentLine ++ " | " ++
    s.editor.status s.settings.lang

end Session

end DiagramDesk
