import DiagramDesk.Session.Reporter
import DiagramDesk.Session.Watcher

/-! A session together with what lies outside it: renderings are started, exports and copies are
made, the text is saved. -/
namespace DiagramDesk

/-- A session, what lies outside it, and the results of all renderings started so far, the first
one first. -/
structure Studio where
  session : Session
  host : Host
  results : List RenderResult := []
  /-- What was said to the user apart from reports. -/
  said : String := ""

namespace Studio

def showNotice (d : Studio) (n : Notice) : Studio := { d with session := d.session.showNotice n }

/-- Does an outside job that is told of in a notice. -/
def announce (d : Studio) (job : Settings → Host → Notice × Host) : Studio :=
  let (notice, host) := job d.session.settings d.host
  { d with host }.showNotice notice

def startRender (engine : Engine) (d : Studio) : Studio :=
  let s := d.session
  let (style, settings, dice) := s.settings.styleForRender s.dice
  let (job, pipeline) := s.pipeline.start s.editor.text style
  { d with
    session := { s with settings, dice, pipeline }
    host := d.host.withFonts (job.warm d.host.fonts)
    results := d.results ++ [job.run engine] }

def exportJob (s : Session) (format : ExportFormat) (destination : Destination) : ExportJob :=
  { ExportJob.ofScene s.preview.scene? format destination s.settings with scale := s.scale }

/-- Exports the diagram on screen to the output file, if there is one; only a failure is told. -/
def exportToOutput (d : Studio) : Studio :=
  match d.session.output with
  | none => d
  | some path =>
    let job := exportJob d.session d.session.exportFormat (.file path)
    let (notice, host) := job.run d.session.settings d.host
    let d := { d with host }
    if notice.isError then d.showNotice notice else d

/-- Whether a result puts a diagram on screen. -/
def showsDiagram (s : Session) (r : RenderResult) : Bool :=
  s.pipeline.isLatest r && match r.outcome with
    | .success _ => true
    | _ => false

def perform (engine : Engine) (d : Studio) : Message → Studio
  | .renderNow => d.startRender engine
  | .renderFinished r => if showsDiagram d.session r then d.exportToOutput else d
  | .export format path => d.announce (exportJob d.session format (.ofPath? path)).run
  | .copyShareLink =>
    d.announce (copyText (toString (d.session.shareUrl d.host.tools.compressor))
      d.session.phrases.copiedLink)
  | .copyEmbed =>
    match Link.embedUrl d.host.tools.compressor d.session.baseUrl d.session.editor.text with
    | .ok url => d.announce (copyText (Link.embedSnippet url) d.session.phrases.copiedEmbed)
    | .error fault => d.showNotice (.error (d.session.phrases.failedWith fault.message))
  | .copyPrompt =>
    d.announce (copyText (Link.assistantPrompt d.session.baseUrl d.session.editor.text)
      d.session.phrases.copiedPrompt)
  | .showHelp => { d with said := d.said ++ helpText ++ "\n" }
  | _ => d

/-- Something happens: inside the session first, then outside. -/
def dispatch (engine : Engine) (d : Studio) (m : Message) : Studio :=
  { d with session := d.session.update m }.perform engine m

def dispatchAll (engine : Engine) (d : Studio) (ms : List Message) : Studio :=
  ms.foldl (dispatch engine) d

def takeIn (engine : Engine) (d : Studio) (text : String) : Studio :=
  let host := d.host.record "app.file_changed" ("bytes=" ++ toString text.utf8ByteSize)
  { d with host }.dispatch engine (.sourceChanged text)

def save (d : Studio) : Studio :=
  match d.host.files.write d.session.filePath (.ofText d.session.editor.text) with
  | .ok files =>
    { d with
      host := { d.host with files }.record "app.save" ("path=" ++ d.session.filePath ++ " bytes=" ++
        toString d.session.editor.text.utf8ByteSize)
      session := { d.session with editor := d.session.editor.markClean } }
  | .error fault => d.showNotice (.error (d.session.phrases.failedWith fault.message))

/-- Writes the text to its file; a watcher is told of the text beforehand. -/
def saveWatched (d : Studio) (w : Option Watcher) : Studio × Option Watcher :=
  (d.save, w.map (·.note d.session.editor.text))

end Studio

end DiagramDesk
