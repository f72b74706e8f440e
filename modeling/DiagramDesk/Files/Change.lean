import DiagramDesk.Files.Tree
import DiagramDesk.Picture.Png.Basic

/-! Bringing a disk in line with a tree of files. Only a few places are looked at: those that the
paths at hand lead through. What has changed among them is then done to the disk, step by step. -/
namespace DiagramDesk

/-- The bytes of a content as they are kept on a disk. -/
def FileContent.encoded : FileContent → List UInt8
  | bytes content => content
  | picture content => Png.encode content

namespace Place

/-- The places that some names lead through, the outermost first. -/
def along : Place → List (List Char) → List Place
  | _, [] => []
  | place, name :: rest =>
    let next := if name = Path.above then place.up else place ++ [String.ofList name]
    next :: along next rest

/-- The places that a path leads through, without those that are always there. -/
def ofPath (path : String) : List Place :=
  (along [] (Path.names path)).filter fun p => !p.isOuter

end Place

/-- A step that changes what is at a place. -/
inductive FileChange where
  | makeDirectory (place : Place)
  | write (place : Place) (content : FileContent)
  | remove (place : Place)

/-- What is told of something that happened at some paths, if only that they were looked at. -/
structure FileEvent where
  isAccess : Bool := false
  paths : List String
  deriving DecidableEq, Repr

namespace FileChange

def place : FileChange → Place
  | makeDirectory place | write place _ | remove place => place

def event (c : FileChange) : FileEvent := { paths := [c.place.path] }

end FileChange

def FileChange.apply (t : FileTree) : FileChange → FileTree
  | makeDirectory place => t.put place .directory
  | write place content => t.put place (.file content)
  | remove place => t.drop place

namespace FileTree

/-- The step that puts a node at its place, if it is not there. -/
def step? (t : FileTree) (place : Place) (node : FileNode) : Option FileChange :=
  match node, t.node? place with
  | .directory, some .directory => none
  | .directory, _ => some (.makeDirectory place)
  | .file (.bytes content), some (.file (.bytes old)) =>
    if content = old then none else some (.write place (.bytes content))
  | .file content, _ => some (.write place content)

/-- The steps that lead from a tree to another one: first what goes, then what comes. -/
def changes (t after : FileTree) : List FileChange :=
  ((t.nodes.filter fun e => (after.node? e.1).isNone).map fun e => .remove e.1) ++
    after.nodes.filterMap fun e => t.step? e.1 e.2

end FileTree

end DiagramDesk
