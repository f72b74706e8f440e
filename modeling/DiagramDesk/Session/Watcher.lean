import DiagramDesk.Files.Change

/-! Watching a file for changes made by others. Events tell what happens in its directory; those
that concern the file count as a change once nothing has happened for a while, and the change is
reported only if the text is not the one last read or written. -/
namespace DiagramDesk

/-- The path of what is there, as it leads from where the program runs; a path that leads nowhere
stays as it is. -/
def FileTree.canonical (t : FileTree) (path : String) : String :=
  match t.locate path with
  | .ok place => if (t.node? place).isSome then place.path else path
  | .error _ => path

/-- A watcher: its file, how long that must be quiet, whether something has happened since it was
last asked, when the last change was noticed, and the text last read from or written to the file. -/
structure Watcher where
  target : String
  quiet : Nat
  stirred : Bool := false
  pending : Option Nat := none
  lastKnown : Option String := none
  deriving DecidableEq, Repr

namespace Watcher

def sessionQuiet : Nat := 250

/-- The directory that is watched for the sake of a file. -/
def rootFor (path : String) : String := (Path.parent? path).getD "."

def on? (files : FileTree) (path : String) (quiet : Nat) : Option Watcher :=
  let target := files.canonical path
  if files.present (rootFor target) then some { target, quiet } else none

/-- Whether an event concerns the file: it is told of the directory, of the file, or of a file with
the same name, and not just because that was looked at. -/
def isRelevant (w : Watcher) (e : FileEvent) : Bool :=
  !e.isAccess && e.paths.any fun path =>
    Path.same path (rootFor w.target) || Path.same path w.target ||
      (Path.fileName? w.target).any fun name => Path.fileName? path == some name

def note (w : Watcher) (text : String) : Watcher := { w with lastKnown := some text }

def stir (w : Watcher) : Watcher := { w with stirred := true }

def hear (w : Watcher) (e : FileEvent) : Watcher := if w.isRelevant e then w.stir else w

/-- Takes notice of what happened; the wait starts anew. -/
def notice (w : Watcher) (now : Nat) : Watcher :=
  if w.stirred then { w with stirred := false, pending := some now } else w

/-- Whether a change has been followed by enough quiet. -/
def isReady (w : Watcher) (now : Nat) : Bool := match w.pending with
  | some since => w.quiet ≤ now - since
  | none => false

/-- Asks for a new text, given what the file holds now, if it can be read as text. -/
def poll (w : Watcher) (now : Nat) (content : Option String) : Option String × Watcher :=
  let w := w.notice now
  if w.isReady now then
    let w := { w with pending := none }
    match content with
    | some text => if w.lastKnown = some text then (none, w) else (some text, w.note text)
    | none => (none, w)
  else (none, w)

end Watcher

end DiagramDesk
