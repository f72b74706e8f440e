import DiagramDesk.Cli.Arguments
import DiagramDesk.DebugLog
import DiagramDesk.Embed
import DiagramDesk.Flags.Defaults
import DiagramDesk.Session.Turn
import DiagramDesk.Text.JsonValue

/-! Carrying out a command line. The outcome is what is printed, the exit code, and the files as
they are afterwards. -/
namespace DiagramDesk.Cli

open Text

/-- What a command finds around it. -/
structure World where
  /-- The variables of the environment. -/
  environment : List (String × String)
  host : Host
  dice : Dice

def World.variable? (w : World) (name : String) : Option String :=
  (w.environment.find? fun v => v.1 = name).map (·.2)

/-- What comes of a command. What the log was told is not in the files yet. -/
structure Outcome where
  code : Nat := 0
  stdout : String := ""
  stderr : String := ""
  files : FileTree
  log : DebugLog := {}

/-- Why a command breaks off: what was being done, and then the causes, each behind what it
caused. -/
abbrev Causes := List String

/-- The report of a failure: what was being done, and the causes, with numbers if there are several.
Further lines of a cause are indented like the first. -/
def report (causes : Causes) : String :=
  let rest := causes.tail
  let block (first : String) (margin : String) (text : String) : String :=
    first ++ ("\n" ++ margin).intercalate
      ((splitAll (· == '\n') text.toList).map String.ofList) ++ "\n"
  "Error: " ++ causes.headD "" ++ "\n" ++
    (if rest.isEmpty then ""
     else "\nCaused by:\n" ++ match rest with
      | [cause] => block "    " "    " cause
      | causes => String.join (causes.zipIdx.map fun (cause, i) =>
          let number := toString i
          block ("".pushn ' ' (5 - number.length) ++ number ++ ": ") "       " cause))

/-- What a command is carried out with. -/
structure Context where
  settings : Settings
  baseUrl : Url
  scale : Single
  tools : Tools
  fonts : FontCache
  clipboard : Clipboard
  log : DebugLog
  dice : Dice
  engine : Engine

def Context.host (c : Context) (files : FileTree) : Host where
  tools := c.tools
  fonts := c.fonts
  files := files
  clipboard := c.clipboard
  log := c.log

abbrev Action := FileTree → Except Causes Outcome

def readSource (files : FileTree) (path : String) : Except Causes String :=
  (files.readText path).mapError fun fault => ["Failed to read " ++ path, fault.message]

def writeText (files : FileTree) (path text : String) : Except Causes FileTree :=
  (files.write path (.ofText text)).mapError fun fault =>
    ["Failed to write " ++ path, fault.message]

def emit (output : Option String) (text printed : String) : Action := fun files =>
  match output with
  | some path => (writeText files path text).map fun files => { files }
  | none => .ok { stdout := printed, files }

/-- Prints a notice; all but good news make the command fail. -/
def noticeOutcome (n : Notice) (stdout : String) (host : Host) : Outcome where
  code := if n.level = .info then 0 else 1
  stdout := stdout
  stderr := n.text ++ "\n"
  files := host.files
  log := host.log

/-- The format of an export to a file, told from its extension. -/
def formatFor (output : Option String) : ExportFormat :=
  match output.bind Path.extension? with
  | some e => if e.toList.map lowerAscii = "svg".toList then .svg else .png
  | none => .png

/-! ### Formatting -/

def runFormat (file : String) (write check : Bool) : Action := fun files => do
  let source ← readSource files file
  let formatted := formatSource source
  if check then
    if formatted = source then return { files }
    else return { code := 1, stderr := file ++ " is not formatted\n", files }
  else if write then
    if formatted = source then return { files }
    else return { files := ← writeText files file formatted }
  else
    let ending := if endsWith formatted.toList ['\n'] then "" else "\n"
    return { stdout := formatted ++ ending, files }

/-! ### Checking and rendering -/

/-- A text as the editor would show it after one rendering. -/
structure Checked where
  source : String
  editor : Editor
  preview : Preview
  settings : Settings
  fonts : FontCache

/-- Renders the text of a file once; the fonts are warmed only for an export. -/
def renderOnce (c : Context) (files : FileTree) (file : String) (warm : Bool) :
    Except Causes Checked := do
  let source ← readSource files file
  let (style, settings, _) := c.settings.styleForRender c.dice
  let pipeline : Pipeline := { lang := settings.lang }
  let (_, editor, preview) := pipeline.render (.ofText source) {} style c.engine 0
  let fonts := if warm then (pipeline.jobFor source style).warm c.fonts else c.fonts
  return { source, editor, preview, settings, fonts }

namespace Checked

def isOk (k : Checked) : Bool := k.preview.scene?.isSome

def problems (k : Checked) (file : String) : String :=
  let lang := k.settings.lang
  let t := lang.phrases
  (if k.preview.lookWarning then t.lookUnsupported ++ "\n" else "") ++
  match k.preview.content with
  | .diagram _ => ""
  | .placeholder => file ++ ": " ++ t.placeholder ++ "\n"
  | .error panel =>
    file ++ ((panel.line.map fun n => ":" ++ toString n).getD "") ++ ": " ++ panel.title lang ++
      "\n" ++ String.join ((Reporter.panelLines t panel).map (· ++ "\n"))

def panelValue (p : ErrorPanel) : JsonValue := .object [
  ("hint", .ofOption .text p.hint), ("line", .ofOption .number p.line), ("message", .text p.message)]

def diagnosticValue (d : Diagnostic) : JsonValue := .object [
  ("line", .number d.line), ("message", .text d.message),
  ("range", .object [("end", .number d.stop), ("start", .number d.start)]),
  ("severity", .text "error")]

def value (k : Checked) (file : String) : JsonValue := .object [
  ("diagnostics", .list (k.editor.diagnostics.map diagnosticValue)),
  ("diagramType", .text (DiagramKind.detect k.source).label),
  ("error", .ofOption panelValue k.preview.error?),
  ("file", .text file),
  ("lookDowngraded", .bool k.preview.lookWarning),
  ("ok", .bool k.isOk)]

end Checked

def runCheck (c : Context) (file : String) (json : Bool) : Action := fun files => do
  let k ← renderOnce c files file false
  let code := if k.isOk then 0 else 1
  if json then return { code, stdout := (k.value file).pretty 0 ++ "\n", files }
  else if k.isOk then
    return {
      stdout := file ++ ": " ++ k.settings.lang.phrases.renderOk ++ " (" ++
        (DiagramKind.detect k.source).label ++ ")\n"
      files }
  else return { code, stderr := k.problems file, files }

def runRender (c : Context) (file : String) (output : Option String)
    (format : Option ExportFormat) (fill : Option String) : Action := fun files => do
  let fill ← match fill with
    | some color => match Fill.ofText? color with
      | some f => .ok f
      | none => .error ["Invalid fill color: " ++ color]
    | none => .ok (Fill.ofBackdrop c.settings.background)
  let k ← renderOnce c files file true
  if k.isOk then
    let job := ExportJob.ofScene k.preview.scene? (format.getD (formatFor output))
      (.ofPath? output) k.settings
    let (notice, host) := { job with fill, scale := c.scale }.run k.settings
      ((c.host files).withFonts k.fonts)
    return noticeOutcome notice "" host
  else return { code := 1, stderr := k.problems file, files }

/-! ### Links -/

def runShare (c : Context) (file : String) (embed prompt copy : Bool) : Action := fun files => do
  let source ← readSource files file
  let t := c.settings.lang.phrases
  let (text, done) ←
    if embed then match Link.embedUrl c.tools.compressor c.baseUrl source with
      | .ok url => .ok (Link.embedSnippet url, t.copiedEmbed)
      | .error fault => .error ["Invalid --base-url", fault.message]
    else if prompt then .ok (Link.assistantPrompt c.baseUrl source, t.copiedPrompt)
    else .ok (toString (Link.shareUrl c.tools.compressor c.baseUrl source), t.copiedLink)
  if copy then
    let (notice, host) := copyText text done c.settings (c.host files)
    return noticeOutcome notice (text ++ "\n") host
  else return { stdout := text ++ "\n", files }

def tokenCauses (fault : Token.Fault) : Causes := fault.message :: match fault with
  | .empty => []
  | .base64 cause => [cause.message]
  | .utf8 cause => [cause.message]

def runOpen (link : String) (output : Option String) : Action := fun files => do
  let source ← (Link.sourceOf link).mapError fun fault =>
    "Link carries no diagram" :: tokenCauses fault
  emit output source (source ++ "\n") files

def runEmbed (c : Context) (link : String) (output : Option String) : Action :=
  let page := (EmbedView.opened link c.engine c.settings).html c.settings.lang
  emit output page page

/-! ### Examples -/

def exampleList (lang : Language) : String :=
  let width := (Sample.gallery.map fun s => s.name.length).foldl max 0
  String.join (Sample.gallery.map fun s =>
    s.name ++ "".pushn ' ' (width - s.name.length) ++ "  " ++ s.title lang ++ "\n")

def runExamples (lang : Language) (name : Option String) : Action := fun files =>
  match name with
  | none => .ok { stdout := exampleList lang, files }
  | some name => match Sample.find? name with
    | some s => .ok { stdout := s.source ++ "\n", files }
    | none => .error ["Unknown example: " ++ name ++ " (run `mermaidpad examples`)"]

/-! ### Live sessions -/

/-- The text of a session's file, which is made if it is not there. -/
def openSource (files : FileTree) (file : String) : Except Causes (String × FileTree) :=
  match files.readText file with
  | .ok text => .ok (text, files)
  | .error .notFound => match files.write file (.ofText defaultSource) with
    | .ok files => .ok (defaultSource, files)
    | .error fault => .error ["Failed to create " ++ file, fault.message]
  | .error fault => .error ["Failed to read " ++ file, fault.message]

def openSession (c : Context) (file : String) (output : Option String)
    (format : Option ExportFormat) (watched : Bool) (files : FileTree) :
    Except Causes LiveSession := do
  let (source, files) ← (openSource files file).mapError ("Session error" :: ·)
  let plan : SessionPlan :=
    { filePath := file, source, settings := c.settings, baseUrl := c.baseUrl, output
      exportFormat := format.getD (formatFor output), scale := c.scale, dice := c.dice }
  let watcher := if watched then Watcher.on? files file Watcher.sessionQuiet else none
  let l : LiveSession := {
    studio := { session := .start plan, host := c.host files }
    watcher := watcher.map (·.note source) }
  return l.begin c.engine

def greeting (file : String) : String := "editing " ++ file ++ " (type `help` for commands)\n"

/-- Runs a session on lines that have all been typed already. -/
def runWatch (c : Context) (typed : List String) (file : String) (output : Option String)
    (format : Option ExportFormat) (watched : Bool) : Action := fun files => do
  let l ← openSession c file output format watched files
  let (record, l) := l.turn c.engine ⟨0, Message.ofLines typed, some [0]⟩
  return {
    stderr := greeting file ++ record.said ++ record.report
    files := l.studio.host.files
    log := l.studio.host.log }

/-! ### All together -/

/-- Clears and keeps defaults as a command line asks for. -/
def keep (i : Invocation) (path : String) (files : FileTree) :
    Except Flags.Trouble Unit × FileTree :=
  match if i.clear then Flags.clear files path else .ok files with
  | .error trouble => (.error trouble, files)
  | .ok files => if i.save then i.flags.save files path else (.ok (), files)

/-- The flags that hold: defaults, unless they are being cleared, and those of the command line. -/
def flagsInForce (i : Invocation) (path : String) (files : FileTree) :
    Except Flags.Trouble Flags := do
  let kept ← if i.clear then .ok {} else Flags.effective files path
  return kept.merge i.flags

/-- What a command line comes to before its command is carried out: the flags that hold, and the
files. -/
def prepare (i : Invocation) (w : World) : Except Flags.Trouble Flags × FileTree :=
  let path := Flags.globalPath w.variable?
  let (kept, files) := keep i path w.host.files
  (kept.bind fun _ => flagsInForce i path files, files)

/-- Opens the log for developers, if there is to be one. A failure is told and does no harm. -/
def openLog (f : Flags) (w : World) (files : FileTree) : String × DebugLog × FileTree :=
  match DebugLog.pathFor f.debugLog w.variable? with
  | none => ("", {}, files)
  | some path => match DebugLog.openAt {} files path with
    | (.ok _, log, files) => ("", log, files)
    | (.error fault, log, files) =>
      ("[warn] Failed to initialize render debug log " ++ path ++ ": " ++ fault.message ++ "\n",
        log, files)

def contextOf (f : Flags) (w : World) (log : DebugLog) (engine : Engine) :
    Except Causes Context := do
  let settings := f.applyTo { lang := Language.ofEnvironment w.variable? }
  let baseUrl ← (Link.base f.baseUrl).mapError fun fault => ["Invalid --base-url", fault.message]
  return {
    settings, baseUrl, engine, log
    scale := f.scale.getD PixelSize.defaultScale
    tools := w.host.tools
    fonts := w.host.fonts
    clipboard := w.host.clipboard
    dice := w.dice }

/-- Carries out a command. Lines that are typed to a session have been typed already. -/
def act (c : Context) (typed : List String) : Command → Action
  | .format file write check => runFormat file write check
  | .check file json => runCheck c file json
  | .render file output format fill => runRender c file output format fill
  | .watch file output format watched => runWatch c typed file output format watched
  | .share file embed prompt copy => runShare c file embed prompt copy
  | .open link output => runOpen link output
  | .embed link output => runEmbed c link output
  | .examples name => runExamples c.settings.lang name

def broken (warning : String) (files : FileTree) (causes : Causes) : Outcome :=
  { code := 1, stderr := warning ++ report causes, files }

structure Ready where
  warning : String
  files : FileTree
  context : Context

/-- Makes ready for a command; instead, what comes of it if that fails. -/
def ready (i : Invocation) (w : World) (engine : Engine) : Except Outcome Ready :=
  match prepare i w with
  | (.error trouble, files) => .error (broken "" files trouble.chain)
  | (.ok flags, files) =>
    let (warning, log, files) := openLog flags w files
    match contextOf flags w log engine with
    | .ok context => .ok { warning, files, context }
    | .error causes => .error (broken warning files causes)

/-- Carries out a command line that was understood. -/
def run (i : Invocation) (w : World) (typed : List String) (engine : Engine) : Outcome :=
  match ready i w engine with
  | .error o => o
  | .ok r => match act r.context typed i.command r.files with
    | .ok o => { o with stderr := r.warning ++ o.stderr, files := o.log.keep o.files }
    | .error causes => broken r.warning r.files causes

def halted (h : Halt) (files : FileTree) : Outcome := match h with
  | .wrong message =>
    { code := 2
      stderr := "error: " ++ message ++ "\n\nFor more information, try '--help'.\n"
      files }
  | .help verb => { stdout := helpOn verb, files }
  | .version => { stdout := versionText, files }

def carryOut (words : List String) (w : World) (typed : List String) (engine : Engine) : Outcome :=
  match read words with
  | .ok i => run i w typed engine
  | .error h => halted h w.host.files

/-! ### Which files are concerned -/

/-- The files that an export to a path may concern: with the extension of its format, or as it
is. -/
def exportPaths (path : String) : List String :=
  path :: ExportFormat.all.map fun f => Path.addExtension path f.name

def messagePaths : Message → List String
  | .export _ (some path) => exportPaths path
  | _ => []

def Command.paths : Command → List String
  | .format file _ _ | .check file _ | .share file _ _ _ => [file]
  | .render file output _ _ | .watch file output _ _ => file :: (output.map exportPaths).getD []
  | .open _ output | .embed _ output => output.toList
  | .examples _ => []

def variableNames : List String :=
  ["XDG_CONFIG_HOME", "HOME", "LC_ALL", "LC_MESSAGES", "LANG", DebugLog.variableName]

def World.defaultPaths (w : World) : List String :=
  [Flags.globalPath w.variable?, Flags.localPath]

/-- All files that a command line may concern, given the defaults among them. -/
def Invocation.paths (i : Invocation) (w : World) : List String :=
  let log := match (prepare i w).1 with
    | .ok flags => (DebugLog.pathFor flags.debugLog w.variable?).toList
    | .error _ => []
  w.defaultPaths ++ log ++ i.command.paths

end DiagramDesk.Cli
