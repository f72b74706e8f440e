import DiagramDesk.Text.Lines

/-! Kinds of diagrams and the header line that names one. A header is the first line that is not
blank, not a comment and not part of the front matter; its keyword decides the kind. -/
namespace DiagramDesk

open Text

inductive DiagramKind where
  | flowchart | sequence | classes | state | entityRelationship | gantt | pie | mindmap
  | gitGraph | architecture | block | timeline | xyChart | generic
  deriving DecidableEq, Repr

namespace DiagramKind

def label : DiagramKind → String
  | flowchart => "flowchart"
  | sequence => "sequence"
  | classes => "class"
  | state => "state"
  | entityRelationship => "entity-relationship"
  | gantt => "gantt"
  | pie => "pie"
  | mindmap => "mindmap"
  | gitGraph => "git-graph"
  | architecture => "architecture"
  | block => "block"
  | timeline => "timeline"
  | xyChart => "xy-chart"
  | generic => "generic"

/-- How the text after a keyword may go on: a whole word ends there, a stem may be continued. -/
inductive KeywordForm where
  | whole | stem
  deriving DecidableEq, Repr

/-- The keywords of a header in lower case, in the order in which they are tried. -/
def keywords : List (List Char × KeywordForm × DiagramKind) := [
  ("graph".toList, .whole, flowchart),
  ("flowchart".toList, .whole, flowchart),
  ("sequencediagram".toList, .whole, sequence),
  ("classdiagram".toList, .whole, classes),
  ("statediagram".toList, .stem, state),
  ("erdiagram".toList, .whole, entityRelationship),
  ("gantt".toList, .whole, gantt),
  ("pie".toList, .whole, pie),
  ("mindmap".toList, .whole, mindmap),
  ("gitgraph".toList, .whole, gitGraph),
  ("architecture".toList, .stem, architecture),
  ("block-beta".toList, .whole, block),
  ("timeline".toList, .whole, timeline),
  ("xychart".toList, .stem, xyChart)]

/-- Whether a keyword opens the text; a whole word is not followed by a letter, a number or a
low line. -/
def opensWith (text word : List Char) : KeywordForm → Bool
  | .stem => startsWith text word
  | .whole => match after? word text with
    | none => false
    | some [] => true
    | some (c :: _) => !(isAlphanumeric c || c == '_')

/-- The kind named by a header line; letter case and blanks around the line do not matter. -/
def ofHeader (header : List Char) : DiagramKind :=
  let text := (trim header).map lowerAscii
  match keywords.find? fun k => opensWith text k.1 k.2.1 with
  | some k => k.2.2
  | none => generic

end DiagramKind

def isFence (line : List Char) : Bool := trim line == ['-', '-', '-']

/-- The index of the closing fence, if the first line that is not blank is an opening one and a
later line closes it. -/
def frontMatterEnd (ls : List (List Char)) : Option Nat :=
  match ls.findIdx? fun l => !blank l with
  | none => none
  | some start =>
    match ls.drop start with
    | [] => none
    | first :: rest =>
      if isFence first then (rest.findIdx? isFence).map (start + 1 + ·) else none

/-- A line that can be a header: neither blank nor a comment. -/
def headerLike (line : List Char) : Bool :=
  let l := trim line
  !l.isEmpty && !startsWith l ['%', '%']

/-- The index of the header among the lines of a source, behind the front matter. -/
def headerIndex (ls : List (List Char)) : Option Nat :=
  let start := match frontMatterEnd ls with
    | some close => close + 1
    | none => 0
  ((ls.drop start).findIdx? headerLike).map (start + ·)

/-- The kind of diagram a source holds, by its header; generic if there is none. -/
def DiagramKind.ofLines (ls : List (List Char)) : DiagramKind :=
  match headerIndex ls with
  | some i => ofHeader (ls[i]?.getD [])
  | none => generic

def DiagramKind.detect (source : String) : DiagramKind := ofLines (lines source.toList)

end DiagramDesk
