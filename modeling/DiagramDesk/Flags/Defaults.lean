import DiagramDesk.Flags.Basic
import DiagramDesk.Files.Tree

/-! Files of defaults: one for all places, and one in the directory at hand, which wins. A file
that is not there gives no flags. -/
namespace DiagramDesk.Flags

inductive Attempt where
  | read | makeDirectory | write | remove
  deriving DecidableEq, Repr

structure Trouble where
  attempt : Attempt
  path : String
  fault : FileFault
  deriving DecidableEq, Repr

def Trouble.attempted (t : Trouble) : String := match t.attempt with
  | .read => "Failed to read config " ++ t.path
  | .makeDirectory => "Failed to create config dir " ++ t.path
  | .write => "Failed to write config " ++ t.path
  | .remove => "Failed to remove " ++ t.path

/-- The wording of a trouble: what was tried, and why it failed. -/
def Trouble.chain (t : Trouble) : List String := [t.attempted, t.fault.message]

/-- The path of the file for all places: in the directory for configurations that the environment
names, or else in the home directory. -/
def globalPath (lookup : String → Option String) : String :=
  let inside (base : String) := Path.join (Path.join base "mermaidpad") "config"
  match lookup "XDG_CONFIG_HOME" with
  | some base => inside base
  | none => match lookup "HOME" with
    | some home => inside (Path.join home ".config")
    | none => ".mermaidpadrc"

def localPath : String := ".mermaidpadrc"

def load (files : FileTree) (path : String) : Except Trouble Flags :=
  if files.present path then
    ((files.readText path).mapError fun fault => ⟨.read, path, fault⟩).map ofText
  else .ok {}

/-- The flags of the file for all places and of the one at hand. -/
def effective (files : FileTree) (globalPath : String) : Except Trouble Flags := do
  let everywhere ← load files globalPath
  let here ← load files localPath
  return everywhere.merge here

def save (f : Flags) (files : FileTree) (path : String) : Except Trouble Unit × FileTree :=
  let (made, files) : Except Trouble Unit × FileTree := match Path.parent? path with
    | some parent =>
      let (made, files) := files.makeDirectories parent
      (made.mapError fun fault => ⟨.makeDirectory, parent, fault⟩, files)
    | none => (.ok (), files)
  match made with
  | .error trouble => (.error trouble, files)
  | .ok () => match files.write path (.ofText f.text) with
    | .ok files => (.ok (), files)
    | .error fault => (.error ⟨.write, path, fault⟩, files)

def clear (files : FileTree) (path : String) : Except Trouble FileTree :=
  if files.present path then (files.remove path).mapError fun fault => ⟨.remove, path, fault⟩
  else .ok files

end DiagramDesk.Flags
