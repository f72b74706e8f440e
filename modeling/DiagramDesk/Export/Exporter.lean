import DiagramDesk.DebugLog
import DiagramDesk.Export.Tools
import DiagramDesk.Files.Change
import DiagramDesk.Fonts.Inline
import DiagramDesk.Preview
import DiagramDesk.Svg.Quotes

/-! Exports: the diagram on screen as a document that needs nothing else, or as a picture, put on
the clipboard or into a file. An export either delivers everything or nothing. -/
namespace DiagramDesk

open Text

inductive ExportFormat where
  | svg | png
  deriving DecidableEq, Repr

namespace ExportFormat

def all : List ExportFormat := [svg, png]

/-- The name, which is also the extension of files. -/
def name : ExportFormat → String
  | svg => "svg"
  | png => "png"

def mime : ExportFormat → String
  | svg => "image/svg+xml"
  | png => "image/png"

end ExportFormat

inductive ExportFault where
  | noDiagram
  | badMarkup (reason : String)
  | tooLarge (size : PixelSize)
  | badContent (reason : String)
  | clipboard (reason : String)
  | file (path : String) (fault : FileFault)
  deriving DecidableEq, Repr

def ExportFault.message : ExportFault → String
  | noDiagram => "no diagram has been rendered yet"
  | badMarkup reason => "invalid SVG: " ++ reason
  | tooLarge size => "image too large: " ++ toString size.width ++ "x" ++ toString size.height
  | badContent reason => "PNG encoding failed: " ++ reason
  | clipboard reason => "clipboard unavailable: " ++ reason
  | file path fault => "failed to write " ++ path ++ ": " ++ fault.message

inductive Clip where
  | text (content : String)
  | picture (content : Picture)

/-- The clipboard: why it takes nothing, if so, and what it was given, the first clip first. One
that takes clips may still refuse some, as it sees fit by what it was given before. -/
structure Clipboard where
  refusal : Option String := none
  clips : List Clip := []
  refuses : List Clip → Clip → Option String := fun _ _ => none

def Clipboard.give (c : Clipboard) (clip : Clip) : Except ExportFault Clipboard :=
  match c.refusal <|> c.refuses c.clips clip with
  | some reason => .error (.clipboard reason)
  | none => .ok { c with clips := c.clips ++ [clip] }

/-- What lies outside a session: libraries, fonts, the clipboard, the log for developers, and all
files but that of the log. -/
structure Host where
  tools : Tools
  fonts : FontCache
  files : FileTree := {}
  clipboard : Clipboard := {}
  log : DebugLog := {}

namespace Host

def record (h : Host) (name : String) (detail : Thunk String) : Host :=
  { h with log := h.log.record name detail }

/-- The host with fonts that were fetched meanwhile, of which the log is told. -/
def withFonts (h : Host) (fonts : FontCache) : Host :=
  (fonts.requests.drop h.fonts.requests.length).foldl
    (fun h r => h.record "fonts.fetch" (fonts.report r)) { h with fonts }

end Host

inductive Destination where
  | clipboard
  | file (path : String)
  deriving DecidableEq, Repr

/-- Where an export goes that may or may not name a file. -/
def Destination.ofPath? : Option String → Destination
  | some path => .file path
  | none => .clipboard

structure Blob where
  format : ExportFormat
  content : FileContent

namespace Blob

/-- What a blob puts on the clipboard: text, or the pixels that are read back from the picture. -/
def clip (b : Blob) (tools : Tools) : Except ExportFault Clip :=
  match b.format with
  | .png => match tools.decode b.content with
    | .ok picture => .ok (.picture picture)
    | .error reason => .error (.badContent reason)
  | .svg => match b.content.text? with
    | some text => .ok (.text text)
    | none => .error (.badContent b.content.textFault)

def target (b : Blob) (path : String) : String :=
  if (Path.extension? path).isNone then Path.addExtension path b.format.name else path

/-- Writes a blob to a file, in directories that are made for it, and gives the file's path. -/
def writeTo (b : Blob) (files : FileTree) (path : String) :
    Except ExportFault String × FileTree :=
  let path := b.target path
  let (made, files) : Except ExportFault Unit × FileTree := match Path.parent? path with
    | some parent =>
      let (made, files) := files.makeDirectories parent
      (made.mapError (ExportFault.file parent), files)
    | none => (.ok (), files)
  match made with
  | .error fault => (.error fault, files)
  | .ok () => match files.write path b.content with
    | .ok files => (.ok path, files)
    | .error fault => (.error (.file path fault), files)

def deliver (b : Blob) (destination : Destination) (host : Host) :
    Except ExportFault (Option String) × Host :=
  match destination with
  | .clipboard => match (b.clip host.tools).bind host.clipboard.give with
    | .ok clipboard => (.ok none, { host with clipboard })
    | .error fault => (.error fault, host)
  | .file path =>
    let (written, files) := b.writeTo host.files path
    (written.map some, { host with files })

end Blob

/-! ### Documents and pictures -/

/-- The hand font that an export has to bring along: the chosen one, if diagrams are drawn by hand
and the markup names it. -/
def handFontFor (scene : Scene) (settings : Settings) : Option HandFont :=
  if settings.handDrawn && contains scene.markup.toList settings.handFont.family.toList then
    some settings.handFont
  else none

/-- A diagram as a document that needs nothing else. -/
def exportVector (scene : Scene) (settings : Settings) (fonts : FontCache) : String × FontCache :=
  let (svg, fonts) := fonts.inline scene.markup (handFontFor scene settings)
  (Svg.ensureNamespace svg, fonts)

/-- The file of a picture; where both ways to write it fail, both reasons are given. -/
def encodePicture (tools : Tools) (picture : Picture) : Except ExportFault FileContent :=
  match tools.encode picture with
  | .ok content => .ok content
  | .error reason => match tools.encodeAgain picture with
    | .ok content => .ok content
    | .error other => .error (.badContent (reason ++ "; " ++ other))

/-- A document as the file of a picture at some scale, and the size of the picture. -/
def rasterize (tools : Tools) (fonts : FontCache) (svg : String) (scale : Single) (fill : Fill) :
    Except ExportFault (PixelSize × FileContent) := do
  let markup := Svg.mendFontFamilies (Svg.sanitize svg)
  let drawing ← (tools.read (fonts.files.filter (·.isSfnt)) markup).mapError .badMarkup
  let size ← (PixelSize.target drawing.width drawing.height (PixelSize.clampScale scale)).mapError
    .tooLarge
  let across := PixelSize.stretch size.width drawing.width
  let down := PixelSize.stretch size.height drawing.height
  match drawing.paint size across down fill with
  | none => .error (.tooLarge size)
  | some picture => return (size, ← encodePicture tools picture)

structure ExportJob where
  scene : Option Scene
  format : ExportFormat
  fill : Fill
  scale : Single
  destination : Destination

/-- The export of the diagram on screen, on the ground that goes with the backdrop. -/
def ExportJob.ofScene (scene : Option Scene) (format : ExportFormat) (destination : Destination)
    (settings : Settings) : ExportJob where
  scene := scene
  format := format
  fill := .ofBackdrop settings.background
  scale := PixelSize.defaultScale
  destination := destination

namespace ExportJob

def blob (job : ExportJob) (settings : Settings) (host : Host) : Except ExportFault Blob × Host :=
  match job.scene with
  | none => (.error .noDiagram, host)
  | some scene =>
    let (svg, fonts) := exportVector scene settings host.fonts
    let host := (host.withFonts fonts).record "export.vector"
      ("id=" ++ scene.id ++ " bytes=" ++ toString svg.utf8ByteSize)
    match job.format with
    | .svg => (.ok ⟨.svg, .ofText svg⟩, host)
    | .png => match rasterize host.tools fonts svg job.scale job.fill with
      | .error fault => (.error fault, host)
      | .ok (size, content) =>
        (.ok ⟨.png, content⟩, host.record "export.rasterize"
          (toString size.width ++ "x" ++ toString size.height ++ " scale=" ++
            (PixelSize.clampScale job.scale).text ++ " bytes=" ++ toString content.encoded.length))

def done (job : ExportJob) (t : Phrases) : Notice :=
  .info (match job.format, job.destination with
    | .svg, .clipboard => t.copiedSvg
    | .png, .clipboard => t.copiedPng
    | .svg, .file _ => t.savedSvg
    | .png, .file _ => t.savedPng)

def failed (t : Phrases) : ExportFault → Notice
  | .noDiagram => .warning t.noDiagram
  | fault => .error (t.failedWith fault.message)

def run (job : ExportJob) (settings : Settings) (host : Host) : Notice × Host :=
  let t := settings.lang.phrases
  let (blob, host) := job.blob settings host
  match blob with
  | .error fault => (failed t fault, host)
  | .ok blob => match blob.deliver job.destination host with
    | (.ok _, host) => (job.done t, host)
    | (.error fault, host) => (failed t fault, host)

end ExportJob

def copyText (text done : String) (settings : Settings) (host : Host) : Notice × Host :=
  match host.clipboard.give (.text text) with
  | .ok clipboard => (.info done, { host with clipboard })
  | .error fault => (.error (settings.lang.phrases.failedWith fault.message), host)

end DiagramDesk
