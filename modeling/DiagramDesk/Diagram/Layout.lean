import DiagramDesk.Diagram.Kind

/-! Indentation of a diagram body. A layout looks at the trimmed lines only, so indenting twice
gives what indenting once gives. The first line is the header and stays at the margin; a blank
line stays empty and never touches the nesting. -/
namespace DiagramDesk

open Text

inductive Layout where
  /-- Blocks from `subgraph` to `end`. -/
  | flowchart
  /-- Blocks from `loop`, `alt` and the like to `end`, with dividers such as `else`. -/
  | sequence
  /-- Bodies in braces, one level deep. -/
  | classes
  /-- Blocks from a `state` line with an opening brace to a closing brace. -/
  | state
  /-- Every line one level under the header, by sections. -/
  | sectioned
  /-- Indentation carries meaning and is kept. -/
  | preserve
  /-- Every line one level under the header. -/
  | generic
  deriving DecidableEq, Repr

def DiagramKind.layout : DiagramKind → Layout
  | flowchart => .flowchart
  | sequence => .sequence
  | classes => .classes
  | state => .state
  | entityRelationship | gantt | pie | timeline | xyChart => .sectioned
  | mindmap => .preserve
  | gitGraph | architecture | block | generic => .generic

namespace Layout

def unit : Nat := 4

def indented (level : Nat) (line : List Char) : List Char :=
  List.replicate (unit * level) ' ' ++ line

/-- Whether a keyword opens the line and ends at a word boundary; letter case does not matter. -/
def opensWithWord (line word : List Char) : Bool :=
  (line.take word.length).map foldCase == word &&
    match line.drop word.length with
    | [] => true
    | c :: _ => !isWord c

/-- Whether the line is the word `end`; letter case does not matter. -/
def isEnd (line : List Char) : Bool := line.map foldCase == ['e', 'n', 'd']

/-- The lines that delimit nested blocks. -/
structure Blocks where
  opens : List Char → Bool
  closes : List Char → Bool
  divides : List Char → Bool

def Blocks.flowchart : Blocks where
  opens line := opensWithWord line "subgraph".toList
  closes := isEnd
  divides _ := false

def Blocks.sequence : Blocks where
  opens line := ["loop", "alt", "opt", "par", "critical", "break", "rect"].any fun w =>
    opensWithWord line w.toList
  closes := isEnd
  divides line := ["else", "and", "option"].any fun w => opensWithWord line w.toList

/-- Composite states: the brace may stand anywhere behind the keyword, up to a line feed. -/
def Blocks.state : Blocks where
  opens line := opensWithWord line "state".toList &&
    ((line.drop 5).takeWhile (· != '\n')).contains '{'
  closes line := startsWith line ['}']
  divides _ := false

/-- Indents body lines inside `depth` open blocks. A closing line leaves its block before it is
placed, an opening line enters its block after, and a divider stands one level out. -/
def Blocks.indent (g : Blocks) : Nat → List (List Char) → List (List Char)
  | _, [] => []
  | depth, raw :: rest =>
    let line := trim raw
    if line.isEmpty then [] :: g.indent depth rest
    else
      let depth := if g.closes line then depth - 1 else depth
      if g.divides line then indented depth line :: g.indent depth rest
      else indented (depth + 1) line :: g.indent (if g.opens line then depth + 1 else depth) rest

/-- Indents class bodies: members stand at the second level, all else at the first. -/
def indentMembers : Bool → List (List Char) → List (List Char)
  | _, [] => []
  | inBody, raw :: rest =>
    let line := trim raw
    if line.isEmpty then [] :: indentMembers inBody rest
    else if endsWith line ['{'] then indented 1 line :: indentMembers true rest
    else if startsWith line ['}'] then indented 1 line :: indentMembers false rest
    else indented (if inBody then 2 else 1) line :: indentMembers inBody rest

def indentFlat (ls : List (List Char)) : List (List Char) :=
  ls.map fun raw =>
    let line := trim raw
    if line.isEmpty then [] else indented 1 line

def indentBody : Layout → List (List Char) → List (List Char)
  | flowchart => Blocks.flowchart.indent 0
  | sequence => Blocks.sequence.indent 0
  | classes => indentMembers false
  | state => Blocks.state.indent 0
  | sectioned | generic => indentFlat
  | preserve => List.map trimEnd

def reindent (layout : Layout) : List (List Char) → List (List Char)
  | [] => []
  | header :: body => trim header :: layout.indentBody body

end Layout

end DiagramDesk
