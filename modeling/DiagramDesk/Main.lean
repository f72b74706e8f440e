import DiagramDesk.Cli.Run
import DiagramDesk.Export.Standard

/-! The program. It looks at the places on the disk that a command line concerns, has the command
carried out on what it found there, and does to the disk what was done to the files. A live session
goes through this in every turn. -/
namespace DiagramDesk.Desk

open Cli

/-- The code of the error that reading a directory ends in. -/
def directoryCode : UInt32 := 21

def nodeAt (place : Place) : IO (Option FileNode) := do
  match ← (IO.FS.readBinFile place.path).toBaseIO with
  | .ok content => return some (.file (.bytes content.toList))
  | .error (.inappropriateType _ code _) =>
    return if code = directoryCode then some .directory else none
  | .error _ => return none

def look (paths : List String) : IO FileTree :=
  (paths.flatMap Place.ofPath).foldlM (fun t place => do
    if (t.node? place).isSome then return t
    match ← nodeAt place with
    | some node => return t.put place node
    | none => return t) {}

def carry : FileChange → IO Unit
  | .makeDirectory place => IO.FS.createDirAll place.path
  | .write place content => IO.FS.writeBinFile place.path ⟨content.encoded.toArray⟩
  | .remove place => IO.FS.removeFile place.path

/-- Does to the disk what was done to the files. -/
def settle (before after : FileTree) : IO Unit := (before.changes after).forM carry

def finish (before : FileTree) (o : Outcome) : IO UInt32 := do
  settle before o.files
  IO.print o.stdout
  IO.eprint o.stderr
  return o.code.toUInt32

/-- The host outside of the files: there is no network, and no clipboard. -/
def bareHost : Host where
  tools := .standard
  fonts := { fetch := fun url _ => .error (.request url "no network") }
  clipboard := { refusal := some "no display" }

/-- What a command finds around it, apart from the files. -/
def surroundings : IO World := do
  let environment ← variableNames.filterMapM fun name =>
    return (← IO.getEnv name).map (name, ·)
  let start ← IO.rand 0 (Settings.seedRange - 1)
  return { environment, host := bareHost, dice := { numbers := fun n => start + 7919 * n } }

/-! ### Live sessions -/

/-- Lines that were typed and not yet taken in, and whether there will be no more. -/
structure Keyboard where
  lines : Array String := #[]
  closed : Bool := false

partial def listen (input : IO.FS.Stream) (keyboard : IO.Ref Keyboard) : IO Unit := do
  match ← input.getLine.toBaseIO with
  | .ok line =>
    if line.isEmpty then keyboard.modify ({ · with closed := true })
    else
      keyboard.modify fun k => { k with lines := k.lines.push line }
      listen input keyboard
  | .error _ => keyboard.modify ({ · with closed := true })

/-- How long a turn takes if nothing happens, in milliseconds. -/
def turnLength : UInt32 := 50

/-- A session on the disk, with the files as they were seen last. -/
structure Desktop where
  live : LiveSession
  seen : FileTree

/-- One turn of a session on the disk. What has happened since the files were seen last is told as
events, the session's own writes among them. -/
def turnOnDisk (engine : Engine) (d : Desktop) (paths : List String) (i : TurnInput) :
    IO Desktop := do
  let found ← look (paths ++ i.messages.flatMap messagePaths)
  let events := (d.seen.changes found).map FileChange.event
  let (record, l) := (d.live.refresh ⟨found, events⟩).turn engine i
  let host := l.studio.host
  settle found (host.log.keep host.files)
  IO.eprint (record.said ++ record.report)
  return ⟨l, found⟩

partial def turns (engine : Engine) (d : Desktop) (paths : List String) (start : Nat)
    (keyboard : IO.Ref Keyboard) : IO Unit := do
  IO.sleep turnLength
  let typed ← keyboard.modifyGet fun k => (k, { k with lines := #[] })
  let now := (← IO.monoMsNow) - start
  let d ← turnOnDisk engine d paths ⟨now, Message.ofLines typed.lines.toList, none⟩
  if d.live.isOver typed.closed then return
  turns engine d paths start keyboard

/-- A live session. The rendering that it begins with is shown in a turn of its own. -/
def live (engine : Engine) (l : LiveSession) (paths : List String) : IO Unit := do
  let keyboard ← IO.mkRef ({} : Keyboard)
  let _ ← IO.asTask (listen (← IO.getStdin) keyboard) .dedicated
  let start ← IO.monoMsNow
  let d ← turnOnDisk engine ⟨l, l.studio.host.files⟩ paths ⟨0, [], some [0]⟩
  turns engine d paths start keyboard

/-! ### Command lines -/

def perform (i : Invocation) (engine : Engine) : IO UInt32 := do
  let w ← surroundings
  let w := { w with host := { w.host with files := ← look w.defaultPaths } }
  let paths := i.paths w
  let found ← look paths
  let w := { w with host := { w.host with files := found } }
  match i.command with
  | .watch file output format watched =>
    match ready i w engine with
    | .error o => finish found o
    | .ok r => match openSession r.context file output format watched r.files with
      | .error causes => finish found (broken r.warning r.files causes)
      | .ok l =>
        settle found l.studio.host.files
        IO.eprint (r.warning ++ greeting file)
        live engine l paths
        return 0
  | _ => finish found (run i w [] engine)

end DiagramDesk.Desk

def main (words : List String) : IO UInt32 := do
  match DiagramDesk.Cli.read words with
  | .ok i => DiagramDesk.Desk.perform i .plain
  | .error h => DiagramDesk.Desk.finish {} (DiagramDesk.Cli.halted h {})
