import DiagramDesk.Files.Path
import DiagramDesk.Picture.Basic
import DiagramDesk.Text.Utf8

/-! The files that a program can reach, as seen from the directory it runs in. An operation either
does all of its work or tells why it does none; only the making of several directories may stop
half way. -/
namespace DiagramDesk

open Text

/-- What a file holds: bytes, or a picture that is still to be written as bytes. -/
inductive FileContent where
  | bytes (content : List UInt8)
  | picture (content : Picture)

namespace FileContent

def ofText (text : String) : FileContent := .bytes (utf8 text.toList)

def text? : FileContent → Option String
  | bytes content => ofUtf8? content
  | picture _ => none

/-- Why a content is no text, in words. A picture starts with a byte that no text starts with. -/
def textFault : FileContent → String
  | bytes content => ((utf8Fault? content).getD ⟨0, none⟩).message
  | picture _ => (⟨0, some 1⟩ : Utf8Fault).message

end FileContent

inductive FileFault where
  | notFound
  | exists
  | notDirectory
  | isDirectory
  | nameTooLong
  | zeroByte
  | notText
  deriving DecidableEq, Repr

def FileFault.message : FileFault → String
  | notFound => "No such file or directory (os error 2)"
  | «exists» => "File exists (os error 17)"
  | notDirectory => "Not a directory (os error 20)"
  | isDirectory => "Is a directory (os error 21)"
  | nameTooLong => "File name too long (os error 36)"
  | zeroByte => "file name contained an unexpected NUL byte"
  | notText => "stream did not contain valid UTF-8"

/-- A place in the tree: the names that lead to it from where the program runs. Names for the
directory above stand only in front. -/
abbrev Place := List String

namespace Place

def above : String := String.ofList Path.above

def top : String := String.ofList Path.top

def up (p : Place) : Place :=
  if p = [top] then p else if p.all (· = above) then p ++ [above] else p.dropLast

/-- Whether a place is a directory whatever the tree holds: where the program runs, all that is
above it, and the topmost directory. -/
def isOuter (p : Place) : Bool := p = [top] || p.all (· = above)

def path (p : Place) : String := match p with
  | [] => "."
  | name :: rest => if name = top then top ++ "/".intercalate rest else "/".intercalate p

end Place

inductive FileNode where
  | directory
  | file (content : FileContent)

/-- A tree of files: what is at which place, apart from the directories that are always there. -/
structure FileTree where
  nodes : List (Place × FileNode) := []

namespace FileTree

def node? (t : FileTree) (place : Place) : Option FileNode :=
  if place.isOuter then some .directory else (t.nodes.find? fun e => e.1 = place).map (·.2)

def put (t : FileTree) (place : Place) (node : FileNode) : FileTree :=
  ⟨if t.nodes.any fun e => e.1 = place then
      t.nodes.map fun e => if e.1 = place then (place, node) else e
    else t.nodes ++ [(place, node)]⟩

def drop (t : FileTree) (place : Place) : FileTree := ⟨t.nodes.filter fun e => e.1 ≠ place⟩

/-- The longest name, in bytes. -/
def longestName : Nat := 255

/-- The longest path, in bytes. -/
def longestPath : Nat := 4095

def checkPath (path : String) : Except FileFault Unit :=
  if path.toList.contains (Char.ofNat 0) then .error .zeroByte
  else if path.isEmpty then .error .notFound
  else if longestPath < path.utf8ByteSize then .error .nameTooLong
  else .ok ()

/-- Goes down into directories, from a place along some names. -/
def walk (t : FileTree) : Place → List (List Char) → Except FileFault Place
  | place, [] => .ok place
  | place, name :: rest =>
    if name = Path.above then walk t place.up rest
    else if longestName < (utf8 name).length then .error .nameTooLong
    else
      match t.node? (place ++ [String.ofList name]) with
      | none => .error .notFound
      | some (.file _) => .error .notDirectory
      | some .directory => walk t (place ++ [String.ofList name]) rest

/-- Where a path leads; nothing needs to be there, but the directories on the way do. -/
def locate (t : FileTree) (path : String) : Except FileFault Place := do
  checkPath path
  match (Path.names path).getLast? with
  | none => return []
  | some name =>
    let place ← t.walk [] (Path.names path).dropLast
    if name = Path.above then return place.up
    else if longestName < (utf8 name).length then .error .nameTooLong
    else return place ++ [String.ofList name]

def find? (t : FileTree) (path : String) : Option FileNode :=
  match t.locate path with
  | .ok place => match t.node? place with
    | some (.file content) => if Path.isDirectoryLike path then none else some (.file content)
    | node => node
  | .error _ => none

def present (t : FileTree) (path : String) : Bool := (t.find? path).isSome

def read (t : FileTree) (path : String) : Except FileFault FileContent := do
  match t.node? (← t.locate path) with
  | none => .error .notFound
  | some .directory => .error .isDirectory
  | some (.file content) =>
    if Path.isDirectoryLike path then .error .notDirectory else return content

def readText (t : FileTree) (path : String) : Except FileFault String := do
  match (← t.read path).text? with
  | some text => return text
  | none => .error .notText

/-- Writes a file, in place of the one that may be there. -/
def write (t : FileTree) (path : String) (content : FileContent) : Except FileFault FileTree := do
  checkPath path
  let names := Path.names path
  if Path.endsInDot path then
    let _ ← t.walk [] names
    .error .isDirectory
  else if Path.endsInSlash path then
    let _ ← t.walk [] names.dropLast
    .error .isDirectory
  else
    let place ← t.locate path
    match t.node? place with
    | some .directory => .error .isDirectory
    | _ => return t.put place (.file content)

/-- Makes the directories along some names, those that are not there yet, as far as possible. The
flag tells whether one was made already: from then on each is made on its own, and a file in the
way is reported for itself. -/
def makeAlong (made : Bool) (t : FileTree) :
    Place → List (List Char) → Except FileFault Unit × FileTree
  | _, [] => (.ok (), t)
  | place, name :: rest =>
    if name = Path.above then makeAlong made t place.up rest
    else if longestName < (utf8 name).length then (.error .nameTooLong, t)
    else
      let next := place ++ [String.ofList name]
      match t.node? next with
      | some .directory => makeAlong made t next rest
      | some (.file _) => (.error (if made || rest.isEmpty then .exists else .notDirectory), t)
      | none => makeAlong true (t.put next .directory) next rest

/-- Makes a directory and those above it, as far as they are not there yet. -/
def makeDirectories (t : FileTree) (path : String) : Except FileFault Unit × FileTree :=
  match checkPath path with
  | .ok () => makeAlong false t [] (Path.names path)
  | .error fault => (.error fault, t)

def remove (t : FileTree) (path : String) : Except FileFault FileTree := do
  let place ← t.locate path
  match t.node? place with
  | none => .error .notFound
  | some .directory => .error .isDirectory
  | some (.file _) => if Path.isDirectoryLike path then .error .notDirectory else return t.drop place

/-- Moves a file, over the one that may be there. -/
def rename (t : FileTree) (source target : String) : Except FileFault FileTree := do
  let content ← t.read source
  (← t.write target content).remove source

end FileTree

end DiagramDesk
