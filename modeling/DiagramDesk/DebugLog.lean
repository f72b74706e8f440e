import DiagramDesk.Files.Tree

/-! A log for developers of what sessions and exports do outside themselves: pictures that are made,
fonts that are fetched, and files that are saved or taken in. It takes events while it is open and
none while it is closed. What it was told is kept apart from all other files until it is put into
its own. The time in front of every event is left out, and so is what only says how long something
took or follows a rendering through a session. -/
namespace DiagramDesk

/-- A log: the file it is kept in, if it is open, and the events it was told since. -/
structure DebugLog where
  path : Option String := none
  events : List String := []
  deriving DecidableEq, Repr

namespace DebugLog

/-- The variable that names a file when no flag does. -/
def variableName : String := "MERMAIDPAD_RENDER_DEBUG_LOG"

def heading : String := "mermaidpad render debug log start"

/-- The file for the log: the one that a flag names, or else the one that the environment names,
unless that name is empty. -/
def pathFor (flag : Option String) (lookup : String → Option String) : Option String :=
  flag <|> (lookup variableName).filter fun path => !path.isEmpty

def isOpen (log : DebugLog) : Bool := log.path.isSome

/-- The first line and the events, one in each line. -/
def text (log : DebugLog) : String := String.join ((heading :: log.events).map (· ++ "\n"))

/-- Opens a log in a new file. A log that is open stays as it is if the file cannot be made. -/
def openAt (log : DebugLog) (files : FileTree) (path : String) :
    Except FileFault Unit × DebugLog × FileTree :=
  let opened : DebugLog := { path := some path }
  match files.write path (.ofText opened.text) with
  | .ok files => (.ok (), opened, files)
  | .error fault => (.error fault, log, files)

def close (_ : DebugLog) : DebugLog := {}

/-- Tells a log of an event. What there is to say about it is worked out only if the log is open. -/
def record (log : DebugLog) (name : String) (detail : Thunk String) : DebugLog :=
  if log.isOpen then { log with events := log.events ++ [name ++ ": " ++ detail.get] } else log

def keep (log : DebugLog) (files : FileTree) : FileTree :=
  match log.path, log.events with
  | some path, _ :: _ => (files.write path (.ofText log.text)).toOption.getD files
  | _, _ => files

end DebugLog

end DiagramDesk
